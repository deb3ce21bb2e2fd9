import NestMonorepo.Gateway.Portal

/-! # Providers that are not supported

The factory looks a provider up in an object literal, which has entries of its own and those
it inherits. The latter pass for verifiers until they are called.
-/

namespace NestMonorepo

open Concurrency AuthService

/-- What a client is told about a token that is not valid. -/
def TokenInvalid (error : GatewayError) : Prop :=
  (AllExceptionsFilter.catch error).statusCode = 401 ∧
    (AllExceptionsFilter.catch error).code = ErrorCodes.tokenInvalid

/-- The factory and the verification refuse a provider as they do a token, and no request to
sign in with it is answered with a 500. They end without a command, so nothing is verified. -/
structure RefusedCleanly [Gateway] (config : OAuthConfig) (platform : Option Platform)
    (provider token : String) : Prop where
  factory : ∃ error, OAuthVerifierFactory.verifierFor provider = .error error ∧ TokenInvalid error
  verification : ∃ error, verifyOAuthToken config platform provider token = .fail error ∧
    TokenInvalid error
  response : ∀ dto deviceId, presented dto = token →
    ∃ error, AuthController.respond config (.oauth provider dto deviceId platform) =
        .fail error ∧
      (AllExceptionsFilter.catch error).statusCode ≠ 500

section Refusal

variable {config : OAuthConfig} {platform : Option Platform} {provider token : String}

/-- For a name that plain objects inherit the factory answers with the inherited member,
which is no verifier. -/
theorem verifierFor_inherited (inherited : provider ∈ objectPrototypeNames) :
    OAuthVerifierFactory.verifierFor provider = .ok (.inherited provider) := by
  have notVk : provider ≠ "vk" := by
    rintro rfl
    exact absurd inherited (by decide)
  have notYandex : provider ≠ "yandex" := by
    rintro rfl
    exact absurd inherited (by decide)
  rw [OAuthVerifierFactory.verifierFor, if_neg notVk, if_neg notYandex, if_pos inherited]

/-- For any other name than the two providers' it throws, and what it throws is the error
for an invalid token. -/
theorem exists_verifierFor_eq_error (notVk : provider ≠ "vk") (notYandex : provider ≠ "yandex")
    (own : provider ∉ objectPrototypeNames) :
    ∃ error, OAuthVerifierFactory.verifierFor provider = .error error ∧ TokenInvalid error := by
  rw [OAuthVerifierFactory.verifierFor, if_neg notVk, if_neg notYandex, if_neg own]
  exact ⟨_, rfl, rfl, rfl⟩

/-- A token is refused with the factory's error, before any provider is consulted. -/
theorem verifyOAuthToken_of_error {error : GatewayError} (present : token ≠ "")
    (refused : OAuthVerifierFactory.verifierFor provider = .error error) :
    verifyOAuthToken config platform provider token = .fail error := by
  rw [verifyOAuthToken, if_neg present, refused]
  rfl

/-- A verification that fails at once ends the request, unless the device did before. -/
theorem respond_oauth_of_fail [Gateway] {error : GatewayError} {dto : OAuthDto}
    (deviceId : Option String)
    (failed : verifyOAuthToken config platform provider (presented dto) = .fail error) :
    AuthController.respond config (.oauth provider dto deviceId platform) = .fail error ∨
      AuthController.respond config (.oauth provider dto deviceId platform) =
        .fail (.http (badRequestException "device_id_required"
          "x-device-id header is required")) := by
  rw [AuthController.respond, AuthController.onDevice, AuthController.requireDeviceId]
  by_cases blank : trim (deviceId.getD "") = ""
  · right
    rw [if_pos blank]
    rfl
  · left
    rw [if_neg blank]
    change (oauthLoginResponse config platform provider dto _ >>= _) = _
    rw [oauthLoginResponse, failed]
    rfl

/-- A provider that the gateway does not have is refused cleanly, before anything is
consulted, exactly if objects inherit no property of its name; the factory's table is a
plain object. -/
theorem refusedCleanly_iff [Gateway] (notVk : provider ≠ "vk") (notYandex : provider ≠ "yandex")
    (present : token ≠ "") :
    RefusedCleanly config platform provider token ↔ provider ∉ objectPrototypeNames := by
  constructor
  · intro refused inherited
    obtain ⟨error, thrown, -⟩ := refused.factory
    rw [verifierFor_inherited inherited] at thrown
    cases thrown
  · intro own
    obtain ⟨error, thrown, invalid⟩ := exists_verifierFor_eq_error notVk notYandex own
    have failed : verifyOAuthToken config platform provider token = .fail error :=
      verifyOAuthToken_of_error present thrown
    refine ⟨⟨error, thrown, invalid⟩, ⟨error, failed, invalid⟩, ?_⟩
    rintro dto deviceId rfl
    rcases respond_oauth_of_fail deviceId failed with same | same
    · exact ⟨error, same, by rw [invalid.1]; decide⟩
    · exact ⟨_, same, by decide⟩

end Refusal

section Google

local instance googleGateway : Gateway := plainGateway

/-- The premises are met by a provider that the gateway does not have and objects know
nothing of: its token is refused as invalid. -/
theorem refusedCleanly_iff_google : "google" ≠ "vk" ∧ "google" ≠ "yandex" ∧ "token" ≠ "" ∧
    RefusedCleanly {} none "google" "token" :=
  ⟨by decide, by decide, by decide,
    (refusedCleanly_iff (by decide) (by decide) (by decide)).mpr (by decide)⟩

/-- The constructor that all objects inherit is found in the factory's table and is no
verifier, which shows only when it is called: the answer is an internal error. -/
theorem not_refusedCleanly_of_constructor :
    ¬∀ (config : OAuthConfig) (platform : Option Platform) (provider token : String),
      provider ≠ "vk" → provider ≠ "yandex" → token ≠ "" →
        RefusedCleanly config platform provider token := by
  intro refused
  have clean := refused {} none "constructor" "token" (by decide) (by decide) (by decide)
  obtain ⟨error, response, status⟩ := clean.response { idToken := some "token" } (some "device") rfl
  have crashed : AuthController.respond {}
      (.oauth "constructor" { idToken := some "token" } (some "device") none) =
        .fail (.other "this.oauthFactory.for(...).verify is not a function") := rfl
  rw [crashed] at response
  cases response
  exact status rfl

end Google

end NestMonorepo
