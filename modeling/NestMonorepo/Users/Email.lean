import NestMonorepo.Common.Env

/-! # Sending mail

`UserConfig` checks the settings of the mail server after they are trimmed and without their
quotes; the constructor of `EmailService` reads them from `process.env` again.
-/

namespace NestMonorepo

/-! ## user.config.ts -/

/-- What class-transformer makes of an environment. -/
structure UserConfig where
  mongo : Option String
  mongoDb : Option String
  rabbitmqUrl : Option String
  rmqQueuePrefix : Option String
  smtpHost : Option String
  smtpPort : Option JsNumber
  smtpSecure : Option String
  smtpUser : Option String
  smtpPassword : Option String
  emailFrom : Option String

/-- The `Transform` of `SMTP_PORT`, whose value is a number by then. -/
def transformPort (value : JsNumber) : JsNumber := parseInt value.toText

def UserConfig.ofEnv (env : ProcessEnv) : UserConfig where
  mongo := env "MONGO"
  mongoDb := env "MONGO_DB"
  rabbitmqUrl := env "RABBITMQ_URL"
  rmqQueuePrefix := env "RMQ_QUEUE_PREFIX"
  smtpHost := env "SMTP_HOST"
  smtpPort := (env "SMTP_PORT").map fun value => transformPort (toNumber value)
  smtpSecure := env "SMTP_SECURE"
  smtpUser := env "SMTP_USER"
  smtpPassword := env "SMTP_PASSWORD"
  emailFrom := env "EMAIL_FROM"

/-- `@IsInt()`. -/
def isInt (value : Option JsNumber) : Bool := (value.bind JsNumber.integer?).isSome

/-- `@Min(least)`. -/
def isAtLeast (least : ℚ) : Option JsNumber → Bool
  | some (.finite value) => least ≤ value
  | some (.infinity negative) => !negative
  | _ => false

/-- `@Max(most)`. -/
def isAtMost (most : ℚ) : Option JsNumber → Bool
  | some (.finite value) => value ≤ most
  | some (.infinity negative) => negative
  | _ => false

/-- A character of `[^@\s]`. -/
def isMailPart (char : Char) : Bool := char ≠ '@' && !isTrimmed char

/-- `/[^@\s]+@[^@\s]+\.[^@\s]+/`. -/
def containsEmail : List Char → Bool
  | before :: '@' :: rest =>
      (isMailPart before && (rest.takeWhile isMailPart).tail.dropLast.contains '.') ||
        containsEmail ('@' :: rest)
  | _ :: rest => containsEmail rest
  | [] => false

/-- The constraints of a property that do not hold. -/
def violated (property : String) (constraints : List (Bool × String)) : List Violation :=
  match (constraints.filter fun constraint => !constraint.1).map Prod.snd with
  | [] => []
  | failed => [⟨property, failed⟩]

/-- `@IsString()`, where no value but a string is there to be had. -/
def requireString (property : String) (value : Option String) : List Violation :=
  violated property [(value.isSome, property ++ " must be a string")]

/-- `validateSync`; an optional string cannot be refused. -/
def UserConfig.violations (config : UserConfig) : List Violation :=
  (if (truthy config.smtpHost).isSome then
    violated "SMTP_PORT"
      [(isAtMost 65535 config.smtpPort, "SMTP_PORT must not be greater than 65535"),
        (isAtLeast 1 config.smtpPort, "SMTP_PORT must not be less than 1"),
        (isInt config.smtpPort, "SMTP_PORT must be an integer number")]
  else []) ++
  violated "SMTP_SECURE"
    [(config.smtpSecure.all ["true", "false", ""].contains,
      "SMTP_SECURE must be \"true\", \"false\", or unset")] ++
  (if (truthy config.smtpUser).isSome then requireString "SMTP_PASSWORD" config.smtpPassword
  else []) ++
  violated "EMAIL_FROM"
    [((truthy config.emailFrom).all fun address => containsEmail address.toList,
      "EMAIL_FROM must contain a valid email address")] ++
  requireString "MONGO" config.mongo ++
  requireString "MONGO_DB" config.mongoDb ++
  requireString "RABBITMQ_URL" config.rabbitmqUrl

def userConfig : ConfigClass where
  name := "UserConfig"
  violations env := (UserConfig.ofEnv env).violations

/-! ## email.service.ts -/

structure SmtpAuth where
  user : String
  pass : String
  deriving DecidableEq

/-- The options that `createTransport` gets. -/
structure Transporter where
  host : String
  port : ℤ
  secure : Bool
  pool : Bool
  maxConnections : ℕ
  auth : Option SmtpAuth
  deriving DecidableEq

structure EmailService where
  fromAddr : String
  transporter : Option Transporter
  usingStub : Bool
  deriving DecidableEq

/-- TLS by the port, unless `SMTP_SECURE` says otherwise. Only Latin letters have `true` and
`false` as their lower case. -/
def secureAt (env : ProcessEnv) (port : ℤ) : Bool :=
  let secureOverride := (optionalEnv env "SMTP_SECURE" "").toLower
  if secureOverride = "true" then true
  else if secureOverride = "false" then false
  else port = 465

/-- The constructor. -/
def EmailService.new (env : ProcessEnv) : Except String EmailService := do
  let fromAddr := optionalEnv env "EMAIL_FROM" "noreply@example.com"
  let host := optionalEnv env "SMTP_HOST" ""
  if host = "" then
    return { fromAddr, transporter := none, usingStub := true }
  let port ← requireEnvInt env "SMTP_PORT" (some 1) (some 65535)
  let secure := secureAt env port
  let user := optionalEnv env "SMTP_USER" ""
  let pass ← if user ≠ "" then requireEnv env "SMTP_PASSWORD" else pure ""
  let auth := if user ≠ "" then some { user, pass } else none
  return {
    fromAddr
    transporter := some { host, port, secure, pool := true, maxConnections := 3, auth }
    usingStub := false
  }

/-! ## What the constructor makes of the settings -/

section Settings

variable {env served : ProcessEnv} {host : String} {service : EmailService}

/-- The service is a stub exactly without a validated host; otherwise its transporter has the
validated host, port and credentials. -/
structure UsesValidated (config : UserConfig) (service : EmailService) : Prop where
  stub : service.usingStub = true ↔ truthy config.smtpHost = none
  settings : service.usingStub = false → ∃ transporter, service.transporter = some transporter ∧
    config.smtpHost = some transporter.host ∧
    config.smtpPort = some (.finite transporter.port) ∧
    transporter.auth.map SmtpAuth.user = truthy config.smtpUser ∧
    ∀ auth, transporter.auth = some auth → config.smtpPassword = some auth.pass

/-- The user is the one in the environment, and the password is read if there is one. -/
structure ReadsAuth (env : ProcessEnv) (auth : Option SmtpAuth) : Prop where
  user : auth.map SmtpAuth.user = truthy (env "SMTP_USER")
  pass : ∀ credentials, auth = some credentials →
    requireEnv env "SMTP_PASSWORD" = .ok credentials.pass

/-- Without an SMTP host the service is the stub, with the sender that is set or the default
one. -/
theorem new_of_stub (absent : truthy (env "SMTP_HOST") = none) :
    EmailService.new env =
      .ok ⟨optionalEnv env "EMAIL_FROM" "noreply@example.com", none, true⟩ := by
  have empty : optionalEnv env "SMTP_HOST" "" = "" := by
    rw [optionalEnv_empty, absent, Option.getD_none]
  rw [EmailService.new, empty]
  rfl

/-- Without a user no credentials are read. -/
theorem readsAuth_none (absent : truthy (env "SMTP_USER") = none) {auth : Option SmtpAuth} :
    ReadsAuth env auth ↔ auth = none := by
  constructor
  · intro reads
    have user := reads.user
    rw [absent] at user
    exact Option.map_eq_none_iff.mp user
  · rintro rfl
    refine ⟨absent.symm, ?_⟩
    intro credentials none
    cases none

/-- With a user the credentials are this user and the required password. -/
theorem readsAuth_some {user : String} (found : truthy (env "SMTP_USER") = some user)
    {auth : Option SmtpAuth} :
    ReadsAuth env auth ↔
      ∃ pass, requireEnv env "SMTP_PASSWORD" = .ok pass ∧ auth = some ⟨user, pass⟩ := by
  constructor
  · intro reads
    have same := reads.user
    rw [found] at same
    obtain ⟨⟨_, pass⟩, given, rfl⟩ := Option.map_eq_some_iff.mp same
    exact ⟨pass, reads.pass _ given, given⟩
  · rintro ⟨pass, read, rfl⟩
    refine ⟨found.symm, ?_⟩
    rintro _ ⟨⟩
    exact read

/-- With a host, the constructor reads the port and the credentials, or throws where one of
them is missing or no number. -/
theorem new_eq_ok_iff (found : truthy (env "SMTP_HOST") = some host) :
    EmailService.new env = .ok service ↔
      ∃ port auth, requireEnvInt env "SMTP_PORT" (some 1) (some 65535) = .ok port ∧
        ReadsAuth env auth ∧
        service = ⟨optionalEnv env "EMAIL_FROM" "noreply@example.com",
          some ⟨host, port, secureAt env port, true, 3, auth⟩, false⟩ := by
  have read : optionalEnv env "SMTP_HOST" "" = host := by
    rw [optionalEnv_empty, found, Option.getD_some]
  have filled : host ≠ "" := (truthy_eq_some.mp found).2
  unfold EmailService.new
  rw [read]
  simp only [filled, ↓reduceIte, bind, Except.bind]
  cases requireEnvInt env "SMTP_PORT" (some 1) (some 65535) with
  | error message => simp only [reduceCtorEq, false_and, exists_false]
  | ok port =>
      cases user : truthy (env "SMTP_USER") with
      | none =>
          have empty : optionalEnv env "SMTP_USER" "" = "" := by
            rw [optionalEnv_empty, user, Option.getD_none]
          simp only [empty, readsAuth_none user, pure, Except.pure, ne_eq, not_true_eq_false,
            ↓reduceIte, Except.ok.injEq]
          constructor
          · rintro rfl
            exact ⟨port, none, rfl, rfl, rfl⟩
          · rintro ⟨_, _, rfl, rfl, rfl⟩
            rfl
      | some name =>
          have named : optionalEnv env "SMTP_USER" "" = name := by
            rw [optionalEnv_empty, user, Option.getD_some]
          have given : name ≠ "" := (truthy_eq_some.mp user).2
          simp only [named, readsAuth_some user, given, pure, Except.pure, ne_eq,
            not_false_eq_true, ↓reduceIte]
          cases requireEnv env "SMTP_PASSWORD" with
          | error message => simp only [reduceCtorEq, false_and, exists_false, and_false]
          | ok pass =>
              simp only [Except.ok.injEq]
              constructor
              · rintro rfl
                exact ⟨port, _, rfl, ⟨pass, rfl, rfl⟩, rfl⟩
              · rintro ⟨_, _, rfl, ⟨_, rfl, rfl⟩, rfl⟩
                rfl

/-- Settings that mean the same to both: without a host, or with a host and a user that are
given as they are, a port that is an integer in the range, and a password without quotes. -/
def PlainSettings (env : ProcessEnv) : Prop :=
  ∀ host, truthy (env "SMTP_HOST") = some host →
    (trim host = host ∧ isQuoted host = false) ∧
    (∃ raw, ∃ port : ℕ, env "SMTP_PORT" = some raw ∧ toNumber raw = .finite port ∧
      1 ≤ port ∧ port ≤ 65535) ∧
    ∀ user, truthy (env "SMTP_USER") = some user →
      (trim user = user ∧ isQuoted user = false) ∧
      ∃ raw, env "SMTP_PASSWORD" = some raw ∧ trim raw ≠ "" ∧ isQuoted (trim raw) = false

/-- The validated port is the number that the text of the setting spells. -/
theorem ofEnv_smtpPort (env : ProcessEnv) : (UserConfig.ofEnv env).smtpPort =
    (env "SMTP_PORT").map fun value => transformPort (toNumber value) := rfl

/-- An integer port is validated as itself. -/
theorem validated_port {raw : String} {port : ℕ} (positive : 1 ≤ port) (within : port ≤ 65535)
    (number : toNumber raw = .finite port) :
    transformPort (toNumber (trimEnvValue raw)) = .finite port := by
  have unquoted : isQuoted (trim raw) = false := by
    cases quoted : isQuoted (trim raw) with
    | false => rfl
    | true =>
        rw [toNumber_of_isQuoted quoted] at number
        cases number
  rw [trimEnvValue_of_unquoted unquoted, toNumber_trim, number, transformPort,
    parseInt_toText_natCast positive (by omega)]

/-- A setting that is given as it is stays so. -/
theorem truthy_served {name : String} (plain : ∀ value, truthy (env name) = some value →
    trim value = value ∧ isQuoted value = false) :
    truthy (trimEnvValues env name) = truthy (env name) := by
  rw [trimEnvValues]
  cases given : env name with
  | none => rfl
  | some value =>
      by_cases empty : value = ""
      · rw [empty]
        rfl
      · have found : truthy (env name) = some value := truthy_eq_some.mpr ⟨given, empty⟩
        rw [Option.map_some, trimEnvValue_eq_self_iff.mpr (plain value found)]

/-- A setting that both see alike is given as it is. -/
theorem plain_of_served {name value : String} (found : truthy (env name) = some value)
    (same : trimEnvValues env name = some value) : trim value = value ∧ isQuoted value = false := by
  rw [trimEnvValues, (truthy_eq_some.mp found).1, Option.map_some] at same
  exact trimEnvValue_eq_self_iff.mp (Option.some.inj same)

/-- Where the credentials mean the same to both, they are read as they are validated. -/
theorem exists_readsAuth (plain : ∀ user, truthy (env "SMTP_USER") = some user →
    ∃ raw, env "SMTP_PASSWORD" = some raw ∧ trim raw ≠ "" ∧ isQuoted (trim raw) = false) :
    ∃ auth, ReadsAuth env auth ∧ ∀ credentials, auth = some credentials →
      trimEnvValues env "SMTP_PASSWORD" = some credentials.pass := by
  cases user : truthy (env "SMTP_USER") with
  | none =>
      refine ⟨none, (readsAuth_none user).mpr rfl, ?_⟩
      intro credentials absent
      cases absent
  | some name =>
      obtain ⟨raw, given, present, unquoted⟩ := plain name user
      have read : requireEnv env "SMTP_PASSWORD" = .ok (trim raw) :=
        requireEnv_eq_ok_iff.mpr ⟨raw, given, present, rfl⟩
      refine ⟨some ⟨name, trim raw⟩, (readsAuth_some user).mpr ⟨_, read, rfl⟩, ?_⟩
      intro credentials same
      rw [← Option.some.inj same, trimEnvValues, given, Option.map_some,
        trimEnvValue_of_unquoted unquoted]

/-- A password that is read as it is validated has no quotes around it. -/
theorem plain_password {pass : String} (read : requireEnv env "SMTP_PASSWORD" = .ok pass)
    (same : trimEnvValues env "SMTP_PASSWORD" = some pass) :
    ∃ raw, env "SMTP_PASSWORD" = some raw ∧ trim raw ≠ "" ∧ isQuoted (trim raw) = false := by
  obtain ⟨raw, given, present, rfl⟩ := requireEnv_eq_ok_iff.mp read
  refine ⟨raw, given, present, ?_⟩
  rw [trimEnvValues, given, Option.map_some] at same
  cases quoted : isQuoted (trim raw) with
  | false => rfl
  | true =>
      rw [trimEnvValue_of_isQuoted quoted] at same
      exact (sliceInner_ne quoted (Option.some.inj same)).elim

/-- A service that was created and uses the validated settings was given plain ones. -/
theorem plainSettings_of_usesValidated
    (created : EmailService.new env = .ok service)
    (uses : UsesValidated (UserConfig.ofEnv (trimEnvValues env)) service) : PlainSettings env := by
  intro host found
  obtain ⟨port, auth, read, reads, rfl⟩ := (new_eq_ok_iff found).mp created
  obtain ⟨transporter, same, hostServed, -, userServed, passServed⟩ := uses.settings rfl
  obtain rfl := Option.some.inj same
  refine ⟨plain_of_served found hostServed, ?_, ?_⟩
  · obtain ⟨raw, given, -, number, low, high⟩ := requireEnvInt_eq_ok_iff.mp read
    obtain ⟨natural, rfl⟩ := Int.eq_ofNat_of_zero_le (by omega : 0 ≤ port)
    rw [toNumber_trim] at number
    exact ⟨raw, natural, given, number, by omega, by omega⟩
  · intro user isUser
    obtain ⟨pass, passRead, rfl⟩ := (readsAuth_some isUser).mp reads
    exact ⟨plain_of_served isUser (truthy_eq_some.mp userServed.symm).1,
      plain_password passRead (passServed _ rfl)⟩

/-- With plain settings and a host the service is created, and it uses the validated
settings. -/
theorem usesValidated_of_plainSettings (plain : PlainSettings env)
    (found : truthy (env "SMTP_HOST") = some host) :
    ∃ service, EmailService.new env = .ok service ∧
      UsesValidated (UserConfig.ofEnv (trimEnvValues env)) service := by
  obtain ⟨plainHost, ⟨raw, port, given, number, low, high⟩, plainUser⟩ := plain host found
  have hostServed : truthy (trimEnvValues env "SMTP_HOST") = some host := by
    rw [truthy_served fun value same => (plain value same).1, found]
  have userServed : truthy (trimEnvValues env "SMTP_USER") = truthy (env "SMTP_USER") :=
    truthy_served fun user isUser => (plainUser user isUser).1
  obtain ⟨auth, reads, passServed⟩ :=
    exists_readsAuth fun user isUser => (plainUser user isUser).2
  have present : trim raw ≠ "" := by
    intro blank
    rw [← toNumber_trim, blank] at number
    have zero : (0 : ℚ) = port := JsNumber.finite.inj number
    have none := Nat.cast_eq_zero.mp zero.symm
    omega
  have read : requireEnvInt env "SMTP_PORT" (some 1) (some 65535) = .ok (port : ℤ) := by
    apply requireEnvInt_eq_ok_iff.mpr
    rw [← toNumber_trim] at number
    exact ⟨raw, given, present, number, by omega, by omega⟩
  refine ⟨_, (new_eq_ok_iff found).mpr ⟨port, auth, read, reads, rfl⟩, ?_, ?_⟩
  · simp only [UserConfig.ofEnv, hostServed, Bool.false_eq_true, reduceCtorEq]
  · intro _
    refine ⟨_, rfl, (truthy_eq_some.mp hostServed).1, ?_, ?_, passServed⟩
    · rw [ofEnv_smtpPort, trimEnvValues, given, Option.map_some, Option.map_some,
        validated_port low high number]
      rfl
    · exact reads.user.trans userServed.symm

/-- The mail service is created with the validated settings exactly if they mean the same to
both readers: it reads `process.env` itself and only trims. -/
theorem usesValidated_iff (accepted : validateEnvWith userConfig env = .ok served) :
    (∃ service, EmailService.new env = .ok service ∧
        UsesValidated (UserConfig.ofEnv served) service) ↔
      PlainSettings env := by
  obtain ⟨-, rfl⟩ := validateEnvWith_eq_ok_iff.mp accepted
  cases found : truthy (env "SMTP_HOST") with
  | some host =>
      constructor
      · intro used
        obtain ⟨service, created, uses⟩ := used
        exact plainSettings_of_usesValidated created uses
      · intro plain
        exact usesValidated_of_plainSettings plain found
  | none =>
      have absent : truthy (trimEnvValues env "SMTP_HOST") = none := by
        rw [truthy_served, found]
        intro value same
        rw [found] at same
        cases same
      apply iff_of_true
      · refine ⟨_, new_of_stub found, ?_, ?_⟩
        · exact iff_of_true rfl absent
        · intro notStub
          cases notStub
      · intro host same
        rw [found] at same
        cases same

end Settings

/-- The required variables and some for the mail server. -/
def mailEnv (settings : List (String × String)) : ProcessEnv := fun name =>
  (settings ++ [("MONGO", "mongodb://mongo"), ("MONGO_DB", "users"),
    ("RABBITMQ_URL", "amqp://mq")]).lookup name

/-- A mail server with a port and an account. -/
def smtpSettings : List (String × String) :=
  [("SMTP_HOST", "smtp.test"), ("SMTP_PORT", "587"), ("SMTP_USER", "mailer"),
    ("SMTP_PASSWORD", "secret")]

/-- The premises are met by an environment with a host, a port, a user and a password, which
the service is created with. -/
theorem usesValidated_iff_smtp :
    validateEnvWith userConfig (mailEnv smtpSettings) =
        .ok (trimEnvValues (mailEnv smtpSettings)) ∧
      ∃ service, EmailService.new (mailEnv smtpSettings) = .ok service ∧
        UsesValidated (UserConfig.ofEnv (trimEnvValues (mailEnv smtpSettings))) service := by
  have accepted : validateEnvWith userConfig (mailEnv smtpSettings) =
      .ok (trimEnvValues (mailEnv smtpSettings)) :=
    validateEnvWith_eq_ok_iff.mpr ⟨by decide +kernel, rfl⟩
  refine ⟨accepted, (usesValidated_iff accepted).mpr ?_⟩
  intro host found
  obtain rfl : "smtp.test" = host := Option.some.inj found
  refine ⟨by decide, ⟨"587", 587, rfl, by decide +kernel, by decide, by decide⟩, ?_⟩
  intro user isUser
  obtain rfl : "mailer" = user := Option.some.inj isUser
  exact ⟨by decide, "secret", rfl, by decide, by decide⟩

/-- A host of two quotes is accepted by the boundary as an empty one, which would be the
stub. The constructor still reads the quotes and asks for a port. -/
theorem not_usesValidated_of_quotes : ¬∀ env served, validateEnvWith userConfig env = .ok served →
    ∃ service, EmailService.new env = .ok service ∧
      UsesValidated (UserConfig.ofEnv served) service := by
  intro used
  have accepted : validateEnvWith userConfig (mailEnv [("SMTP_HOST", "''")]) =
      .ok (trimEnvValues (mailEnv [("SMTP_HOST", "''")])) :=
    validateEnvWith_eq_ok_iff.mpr ⟨rfl, rfl⟩
  obtain ⟨service, created, -⟩ := used _ _ accepted
  have thrown : EmailService.new (mailEnv [("SMTP_HOST", "''")]) =
      .error (missingEnv "SMTP_PORT") := rfl
  rw [thrown] at created
  cases created

end NestMonorepo
