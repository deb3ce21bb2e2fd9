import NestMonorepo.Collections.Base64
import NestMonorepo.Common.Numbers

/-! # Reading the environment

At boot `validateEnvWith` trims every value and takes off one pair of quotes; what it returns
is served by `ConfigService`. Modules read `process.env` themselves, which keeps the values as
they were given.
-/

namespace NestMonorepo

/-- `process.env`. -/
abbrev ProcessEnv : Type := String → Option String

/-! ## require-env.ts -/

def missingEnv (name : String) : String :=
  "Missing required env var \"" ++ name ++
    "\". Fix the k8s ConfigMap/Secret or your .env file."

def requireEnv (env : ProcessEnv) (name : String) : Except String String :=
  match env name with
  | none => .error (missingEnv name)
  | some value => if trim value = "" then .error (missingEnv name) else .ok (trim value)

def optionalEnv (env : ProcessEnv) (name fallback : String) : String := (env name).getD fallback

/-- The names without a value, or with a blank one. -/
def missingNames (env : ProcessEnv) (names : List String) : List String :=
  names.filter fun name => (env name).all fun value => trim value = ""

def assertRequiredEnv (env : ProcessEnv) (names : List String) : Except String Unit :=
  match missingNames env names with
  | [] => .ok ()
  | missing => .error ("Missing required env vars: " ++ ", ".intercalate missing ++ ". " ++
      "Fix the k8s ConfigMap/Secret or your .env file.")

/-- How a message shows an integer. -/
def integerText (number : ℤ) : String := String.ofList (JsNumber.finite number).toText

/-- The bounds are `opts.min` and `opts.max`. -/
def requireEnvInt (env : ProcessEnv) (name : String) (min max : Option ℤ) :
    Except String ℤ := do
  let raw ← requireEnv env name
  match (toNumber raw).integer? with
  | none => throw ("Env var \"" ++ name ++ "\" must be an integer (got \"" ++ raw ++ "\")")
  | some number =>
      match min.filter fun least => number < least with
      | some least => throw ("Env var \"" ++ name ++ "\" must be ≥ " ++ integerText least ++
          " (got " ++ integerText number ++ ")")
      | none =>
          match max.filter fun most => most < number with
          | some most => throw ("Env var \"" ++ name ++ "\" must be ≤ " ++ integerText most ++
              " (got " ++ integerText number ++ ")")
          | none => pure number

/-- `Buffer.from(raw, 'base64')` never throws. -/
def requireEnvBase64 (env : ProcessEnv) (name : String) (expectedBytes : Option Nat) :
    Except String (List UInt8) := do
  let raw ← requireEnv env name
  let buf := Base64.decode raw.toList
  match expectedBytes with
  | some expected =>
      if buf.length ≠ expected then
        throw ("Env var \"" ++ name ++ "\" must decode to " ++ toString expected ++
          " bytes (got " ++ toString buf.length ++ ")")
      else pure buf
  | none => pure buf

/-! ## validate-env.ts -/

/-- Whether a text starts and ends with the quote. -/
def wrappedIn (quote : Char) (text : String) : Bool :=
  text.toList.head? = some quote && text.toList.getLast? = some quote

/-- At least two characters, and a pair of double or of single quotes around them. -/
def isQuoted (text : String) : Bool :=
  decide (2 ≤ text.length) && (wrappedIn '"' text || wrappedIn '\'' text)

/-- `slice(1, -1)`. -/
def sliceInner (text : String) : String := String.ofList text.toList.tail.dropLast

/-- What `trimEnvValues` does to a value. -/
def trimEnvValue (value : String) : String :=
  if isQuoted (trim value) then sliceInner (trim value) else trim value

def trimEnvValues (raw : ProcessEnv) : ProcessEnv := fun name => (raw name).map trimEnvValue

/-- A violation that class-validator reports. -/
structure Violation where
  property : String
  constraints : List String
  deriving DecidableEq, Repr

/-- A config class: its name, and what class-transformer and class-validator find in an
environment. -/
structure ConfigClass where
  name : String
  violations : ProcessEnv → List Violation

def Violation.line (violation : Violation) : String :=
  "  " ++ violation.property ++ ": " ++ ", ".intercalate violation.constraints

/-- The environment that `ConfigService` serves. -/
def validateEnvWith (cls : ConfigClass) (raw : ProcessEnv) : Except String ProcessEnv :=
  let trimmed := trimEnvValues raw
  match cls.violations trimmed with
  | [] => .ok trimmed
  | errors => .error (cls.name ++ " validation failed:\n" ++
      "\n".intercalate (errors.map Violation.line))

/-! ## queue.constants.ts -/

def getQueuePrefix (env : ProcessEnv) : String :=
  match (env "RMQ_QUEUE_PREFIX").filter fun explicit => trim explicit ≠ "" with
  | some explicit => trim explicit
  | none => ((env "NODE_ENV").map trim).getD "dev"

def prefixedQueue (env : ProcessEnv) (queue : String) : String :=
  getQueuePrefix env ++ "_" ++ queue

/-! ## The readers -/

section Readers

variable {env served : ProcessEnv} {cls : ConfigClass} {name value : String}

/-- The empty text trims to itself. -/
theorem trim_empty : trim "" = "" := rfl

/-- A value that is not blank is not empty. -/
theorem ne_empty_of_trim (present : trim value ≠ "") : value ≠ "" := by
  rintro rfl
  exact present trim_empty

/-- A missing option counts as an empty text. -/
theorem optionalEnv_empty : optionalEnv env name "" = (truthy (env name)).getD "" := by
  unfold optionalEnv
  cases env name with
  | none => rfl
  | some value =>
      by_cases empty : value = ""
      · rw [empty]
        rfl
      · rw [truthy_eq_some.mpr ⟨rfl, empty⟩]

/-- A value is required and not blank, or there is an error. -/
theorem requireEnv_eq_ok_iff : requireEnv env name = .ok value ↔
    ∃ raw, env name = some raw ∧ trim raw ≠ "" ∧ trim raw = value := by
  unfold requireEnv
  cases env name with
  | none => simp only [reduceCtorEq, false_and, exists_false]
  | some raw =>
      by_cases blank : trim raw = ""
      · simp only [blank, ↓reduceIte, reduceCtorEq, Option.some.injEq, exists_eq_left', ne_eq,
          not_true_eq_false, false_and]
      · simp only [blank, ↓reduceIte, Except.ok.injEq, Option.some.injEq, exists_eq_left', ne_eq,
          not_false_eq_true, true_and]

/-- The group check fails exactly if one of the names cannot be read, whichever it is, since
it collects all that are missing. -/
theorem assertRequiredEnv_isOk_iff (names : List String) :
    (assertRequiredEnv env names).isOk = true ↔
      ∀ name ∈ names, ∃ value, requireEnv env name = .ok value := by
  have passes : (assertRequiredEnv env names).isOk = true ↔ missingNames env names = [] := by
    unfold assertRequiredEnv
    split
    · rename_i none
      exact ⟨fun _ => none, fun _ => rfl⟩
    · rename_i some
      constructor
      · intro failed
        cases failed
      · intro none
        exact (some none).elim
  rw [passes, missingNames, List.filter_eq_nil_iff]
  apply forall₂_congr
  intro name _
  simp only [requireEnv_eq_ok_iff, Option.all_eq_true, decide_eq_true_eq, not_forall]
  constructor
  · rintro ⟨raw, found, present⟩
    exact ⟨trim raw, raw, found, present, rfl⟩
  · rintro ⟨_, raw, found, present, _⟩
    exact ⟨raw, found, present⟩

/-- A JavaScript number counts as an integer exactly when it is finite and whole. -/
theorem integer?_eq_some_iff {number : JsNumber} {value : ℤ} :
    number.integer? = some value ↔ number = .finite value := by
  cases number with
  | nan => simp only [JsNumber.integer?, reduceCtorEq]
  | infinity negative => simp only [JsNumber.integer?, reduceCtorEq]
  | finite rational =>
      rw [JsNumber.integer?, JsNumber.finite.injEq]
      constructor
      · intro whole
        split at whole
        · rename_i integral
          rw [← Option.some.inj whole]
          exact ((Rat.den_eq_one_iff rational).mp integral).symm
        · cases whole
      · rintro rfl
        rw [if_pos (Rat.den_intCast value), Rat.num_intCast]

/-- An integer is read from a text that is there, is not blank and spells a whole number
within the range; everything else is an error. -/
theorem requireEnvInt_eq_ok_iff {least most number : ℤ} :
    requireEnvInt env name (some least) (some most) = .ok number ↔
      ∃ raw, env name = some raw ∧ trim raw ≠ "" ∧ toNumber (trim raw) = .finite number ∧
        least ≤ number ∧ number ≤ most := by
  unfold requireEnvInt
  cases read : requireEnv env name with
  | error message =>
      simp only [bind, Except.bind, reduceCtorEq, false_iff, not_exists, not_and]
      intro raw found present
      rw [requireEnv_eq_ok_iff.mpr ⟨raw, found, present, rfl⟩] at read
      cases read
  | ok trimmed =>
      obtain ⟨raw, found, present, rfl⟩ := requireEnv_eq_ok_iff.mp read
      simp only [bind, Except.bind, found, Option.some.injEq, exists_eq_left', present, ne_eq,
        not_false_eq_true, true_and]
      cases whole : (toNumber (trim raw)).integer? with
      | none =>
          simp only [throw, throwThe, MonadExceptOf.throw, reduceCtorEq, false_iff, not_and]
          intro same
          rw [integer?_eq_some_iff.mpr same] at whole
          cases whole
      | some value =>
          have same : toNumber (trim raw) = .finite number ↔ value = number := by
            rw [integer?_eq_some_iff.mp whole, JsNumber.finite.injEq, Int.cast_inj]
          rw [same]
          by_cases low : value < least
          · simp only [Option.filter_some, low, decide_true, ↓reduceIte, throw, throwThe,
              MonadExceptOf.throw, reduceCtorEq, false_iff]
            omega
          · by_cases high : most < value
            · simp only [Option.filter_some, low, high, decide_true, decide_false,
                Bool.false_eq_true, ↓reduceIte, throw, throwThe, MonadExceptOf.throw,
                reduceCtorEq, false_iff]
              omega
            · simp only [Option.filter_some, low, high, decide_false, Bool.false_eq_true,
                ↓reduceIte, pure, Except.pure, Except.ok.injEq]
              omega

/-- The boundary accepts an environment when the normalised values violate no rule of the
class, and what it serves are these values. -/
theorem validateEnvWith_eq_ok_iff : validateEnvWith cls env = .ok served ↔
    cls.violations (trimEnvValues env) = [] ∧ trimEnvValues env = served := by
  unfold validateEnvWith
  simp only
  cases cls.violations (trimEnvValues env) with
  | nil => simp only [Except.ok.injEq, true_and]
  | cons first rest => simp only [reduceCtorEq, false_and]

/-- Taking the quotes off a text makes it shorter. -/
theorem length_sliceInner_lt (quoted : isQuoted value = true) :
    (sliceInner value).length < value.length := by
  have long : 2 ≤ value.length := of_decide_eq_true (Bool.and_eq_true _ _ ▸ quoted).1
  rw [sliceInner, String.length_ofList, List.length_dropLast, List.length_tail,
    String.length_toList]
  omega

/-- Taking the quotes off a quoted value changes it. -/
theorem sliceInner_ne (quoted : isQuoted value = true) : sliceInner value ≠ value := by
  intro same
  have shorter := length_sliceInner_lt quoted
  rw [same] at shorter
  exact lt_irrefl _ shorter

/-- A value that is not quoted is normalised to its trimmed text. -/
theorem trimEnvValue_of_unquoted (unquoted : isQuoted (trim value) = false) :
    trimEnvValue value = trim value := by
  rw [trimEnvValue, if_neg (Bool.eq_false_iff.mp unquoted)]

/-- A quoted value is normalised to the text between the quotes, blanks inside included. -/
theorem trimEnvValue_of_isQuoted (quoted : isQuoted (trim value) = true) :
    trimEnvValue value = sliceInner (trim value) := if_pos quoted

/-- A text that stays as it is has no white space and no quotes around it. -/
theorem trimEnvValue_eq_self_iff :
    trimEnvValue value = value ↔ trim value = value ∧ isQuoted value = false := by
  constructor
  · intro same
    cases quoted : isQuoted (trim value) with
    | true =>
        rw [trimEnvValue_of_isQuoted quoted] at same
        have shorter := (length_sliceInner_lt quoted).trans_le (length_trim_le value)
        rw [same] at shorter
        exact (lt_irrefl _ shorter).elim
    | false =>
        rw [trimEnvValue_of_unquoted quoted] at same
        exact ⟨same, same ▸ quoted⟩
  · intro plain
    obtain ⟨trimmed, unquoted⟩ := plain
    have outer : isQuoted (trim value) = false := trimmed.symm ▸ unquoted
    rw [trimEnvValue_of_unquoted outer, trimmed]

/-- `Number` trims on its own, so a trimmed text is read as the same number. -/
theorem toNumber_trim (value : String) : toNumber (trim value) = toNumber value := by
  rw [toNumber, trim_trim, toNumber]

/-- A quoted text is no number. -/
theorem toNumber_of_isQuoted (quoted : isQuoted (trim value) = true) : toNumber value = .nan := by
  have wrapped := (Bool.and_eq_true _ _ ▸ quoted).2
  have start : ∃ quote, (quote = '"' ∨ quote = '\'') ∧ (trim value).toList.head? = some quote := by
    rcases Bool.or_eq_true _ _ ▸ wrapped with double | single
    · exact ⟨'"', .inl rfl, of_decide_eq_true (Bool.and_eq_true _ _ ▸ double).1⟩
    · exact ⟨'\'', .inr rfl, of_decide_eq_true (Bool.and_eq_true _ _ ▸ single).1⟩
  obtain ⟨quote, isQuote, head⟩ := start
  obtain ⟨rest, text⟩ := List.head?_eq_some_iff.mp head
  rw [toNumber, text, numericLiteral_quote isQuote]

end Readers

/-! ## Keys in base64 -/

section Base64Keys

variable {env : ProcessEnv} {name value : String} {expectedBytes : Option Nat} {buf : List UInt8}

/-- The bytes are those of Node's lenient reading, if there are as many as expected: nothing
else is checked of the text. -/
theorem requireEnvBase64_eq_ok_iff (found : env name = some value) :
    requireEnvBase64 env name expectedBytes = .ok buf ↔
      trim value ≠ "" ∧ Base64.decode (trim value).toList = buf ∧
        ∀ expected, expectedBytes = some expected → buf.length = expected := by
  by_cases blank : trim value = ""
  · have missing : requireEnv env name = .error (missingEnv name) := by
      simp only [requireEnv, found, blank, ↓reduceIte]
    simp only [requireEnvBase64, missing, bind, Except.bind, reduceCtorEq, blank, ne_eq,
      not_true_eq_false, false_and]
  · have raw : requireEnv env name = .ok (trim value) :=
      requireEnv_eq_ok_iff.mpr ⟨value, found, blank, rfl⟩
    simp only [requireEnvBase64, raw, bind, Except.bind, blank, ne_eq, not_false_eq_true, true_and]
    cases expectedBytes with
    | none => simp only [pure, Except.pure, Except.ok.injEq, reduceCtorEq, false_implies,
        implies_true, and_true]
    | some expected =>
        simp only [Option.some.injEq, forall_eq']
        split
        · rename_i wrong
          simp only [throw, throwThe, MonadExceptOf.throw, reduceCtorEq, false_iff, not_and]
          intro same length
          exact wrong (same ▸ length)
        · rename_i right
          simp only [pure, Except.pure, Except.ok.injEq, iff_self_and]
          intro same
          exact same ▸ not_not.mp right

/-- Whether exactly the base64 texts of the expected length are read, as the bytes they stand
for. A blank value is a missing one. -/
def ReadsBase64 (name value : String) (expectedBytes : Option Nat) : Prop :=
  ∀ env : ProcessEnv, env name = some value → ∀ buf,
    requireEnvBase64 env name expectedBytes = .ok buf ↔
      trim value ≠ "" ∧ Base64.Encodes (trim value).toList buf ∧
        ∀ expected, expectedBytes = some expected → buf.length = expected

/-- Only well-formed texts are read as they should be, and those that the check of the length
refuses. -/
theorem readsBase64_iff (name value : String) (expectedBytes : Option Nat) :
    ReadsBase64 name value expectedBytes ↔
      trim value = "" ∨ (∃ data, Base64.Encodes (trim value).toList data) ∨
        ∃ expected, expectedBytes = some expected ∧
          Base64.digitCount (trim value).toList * 3 / 4 ≠ expected := by
  constructor
  · intro reads
    by_contra! ill
    obtain ⟨present, illFormed, fits⟩ := ill
    obtain ⟨env, found⟩ : ∃ env : ProcessEnv, env name = some value := ⟨fun _ => some value, rfl⟩
    have read : requireEnvBase64 env name expectedBytes =
        .ok (Base64.decode (trim value).toList) := by
      apply (requireEnvBase64_eq_ok_iff found).mpr
      refine ⟨present, rfl, ?_⟩
      intro expected some
      rw [Base64.length_decode]
      exact fits expected some
    have encodes := ((reads env found _).mp read).2.1
    exact illFormed _ encodes
  · intro condition env found buf
    rw [requireEnvBase64_eq_ok_iff found]
    apply and_congr_right
    intro present
    constructor
    · intro read
      obtain ⟨decoded, length⟩ := read
      refine ⟨?_, length⟩
      rcases condition with blank | ⟨data, encodes⟩ | ⟨expected, some, wrong⟩
      · exact (present blank).elim
      · rw [← decoded, encodes.decode_eq]
        exact encodes
      · rw [← length expected some, ← decoded, Base64.length_decode] at wrong
        exact (wrong rfl).elim
    · intro read
      obtain ⟨encodes, length⟩ := read
      exact ⟨encodes.decode_eq, length⟩

/-- The text `a*` is read as no bytes at all, without an error: Node's decoder passes over a
character that is no digit. -/
theorem not_readsBase64_of_garbage : ¬ReadsBase64 "KEY" "a*" none := by
  intro reads
  have read : requireEnvBase64 (fun _ => some "a*") "KEY" none = .ok [] := by rfl
  have encodes := ((reads _ rfl _).mp read).2.1
  rw [show (trim "a*").toList = ['a', '*'] from rfl] at encodes
  cases encodes

end Base64Keys

/-! ## Reading what `ConfigService` serves -/

section Agreement

variable {env served : ProcessEnv} {cls : ConfigClass} {name raw : String}

/-- Reading `process.env` gives what is served, for every variable that is not blank there, and
for the prefix of the queues. -/
structure ReadsAgree (env served : ProcessEnv) : Prop where
  required : ∀ name value, served name = some value → trim value ≠ "" →
    requireEnv env name = .ok value
  queuePrefix : getQueuePrefix env = getQueuePrefix served

/-- The quotes around a value have nothing but white space in them. -/
def BlankIfQuoted (raw : String) : Prop :=
  isQuoted (trim raw) = true → trim (sliceInner (trim raw)) = ""

/-- A value that is served and not blank is the trimmed one, unless there are quotes around
it. -/
theorem exists_raw_of_served
    (unquoted : ∀ name raw, env name = some raw → BlankIfQuoted raw)
    {value : String} (value_served : trimEnvValues env name = some value)
    (present : trim value ≠ "") :
    ∃ raw, env name = some raw ∧ trim raw = value ∧ trim raw ≠ "" := by
  obtain ⟨raw, found, normal⟩ := Option.map_eq_some_iff.mp value_served
  cases quoted : isQuoted (trim raw) with
  | true =>
      rw [trimEnvValue_of_isQuoted quoted] at normal
      rw [← normal] at present
      exact (present (unquoted name raw found quoted)).elim
  | false =>
      rw [trimEnvValue_of_unquoted quoted] at normal
      exact ⟨raw, found, normal, normal ▸ ne_empty_of_trim present⟩

/-- The empty text is not quoted. -/
theorem isQuoted_empty : isQuoted "" = false := rfl

/-- A quoted value has at least its two quotes. -/
theorem ne_empty_of_isQuoted (quoted : isQuoted raw = true) : raw ≠ "" := by
  rintro rfl
  cases quoted

/-- What is served of such a value has no quotes around it. -/
theorem isQuoted_trimEnvValue (blank : BlankIfQuoted raw) :
    isQuoted (trim (trimEnvValue raw)) = false := by
  cases quoted : isQuoted (trim raw) with
  | true => rw [trimEnvValue_of_isQuoted quoted, blank quoted, isQuoted_empty]
  | false => rw [trimEnvValue_of_unquoted quoted, trim_trim, quoted]

/-- A prefix that is set and not blank is the prefix, trimmed. -/
theorem getQueuePrefix_of_explicit (given : env "RMQ_QUEUE_PREFIX" = some raw)
    (present : trim raw ≠ "") : getQueuePrefix env = trim raw := by
  rw [getQueuePrefix, given, Option.filter_some, if_pos (decide_eq_true present)]

/-- Without a prefix the node environment is the prefix, and `dev` where that is missing too. -/
theorem getQueuePrefix_of_blank
    (blank : ∀ raw, env "RMQ_QUEUE_PREFIX" = some raw → trim raw = "") :
    getQueuePrefix env = ((env "NODE_ENV").map trim).getD "dev" := by
  have none : (env "RMQ_QUEUE_PREFIX").filter (fun explicit => trim explicit ≠ "") = none := by
    rw [Option.filter_eq_none_iff]
    intro raw given
    rw [decide_eq_true_iff, not_not]
    exact blank raw given
  rw [getQueuePrefix, none]

/-- The prefix that the served environment gives has no quotes around it. -/
theorem isQuoted_getQueuePrefix_served
    (unquoted : ∀ name raw, env name = some raw → BlankIfQuoted raw) :
    isQuoted (getQueuePrefix (trimEnvValues env)) = false := by
  have plain : ∀ name value, trimEnvValues env name = some value →
      isQuoted (trim value) = false := by
    intro name value value_served
    obtain ⟨raw, found, rfl⟩ := Option.map_eq_some_iff.mp value_served
    exact isQuoted_trimEnvValue (unquoted name raw found)
  by_cases explicit : ∃ value, trimEnvValues env "RMQ_QUEUE_PREFIX" = some value ∧ trim value ≠ ""
  · obtain ⟨value, given, present⟩ := explicit
    rw [getQueuePrefix_of_explicit given present]
    exact plain _ value given
  · push Not at explicit
    rw [getQueuePrefix_of_blank explicit]
    cases fallback : trimEnvValues env "NODE_ENV" with
    | none => rfl
    | some value => exact plain _ value fallback

/-- A text in quotes is the prefix where modules read it and nowhere else. -/
theorem isQuoted_getQueuePrefix (found : env name = some raw) (quoted : isQuoted (trim raw) = true)
    (used : name = "RMQ_QUEUE_PREFIX" ∨ name = "NODE_ENV" ∧
      ∀ explicit, env "RMQ_QUEUE_PREFIX" = some explicit → trim explicit = "") :
    isQuoted (getQueuePrefix env) = true := by
  rcases used with rfl | ⟨rfl, blank⟩
  · rw [getQueuePrefix_of_explicit found (ne_empty_of_isQuoted quoted), quoted]
  · rw [getQueuePrefix_of_blank blank, found, Option.map_some, Option.getD_some, quoted]

/-- The two readings agree unless there are quotes around a value that is not blank, or around
a blank one that the prefix is read from: around `RMQ_QUEUE_PREFIX`, or around `NODE_ENV` while
the other is unset or blank. -/
theorem readsAgree_iff (accepted : validateEnvWith cls env = .ok served) :
    ReadsAgree env served ↔
      (∀ name raw, env name = some raw → BlankIfQuoted raw) ∧
      (∀ raw, env "RMQ_QUEUE_PREFIX" = some raw → isQuoted (trim raw) = false) ∧
      ∀ raw, env "NODE_ENV" = some raw → isQuoted (trim raw) = true →
        ∃ explicit, env "RMQ_QUEUE_PREFIX" = some explicit ∧ trim explicit ≠ "" := by
  obtain ⟨-, rfl⟩ := validateEnvWith_eq_ok_iff.mp accepted
  constructor
  · intro agree
    have unquoted : ∀ name raw, env name = some raw → BlankIfQuoted raw := by
      intro name raw found quoted
      by_contra present
      have normal : trimEnvValues env name = some (sliceInner (trim raw)) := by
        rw [trimEnvValues, found, Option.map_some, trimEnvValue_of_isQuoted quoted]
      have read := agree.required name _ normal present
      obtain ⟨_, same, -, trimmed⟩ := requireEnv_eq_ok_iff.mp read
      cases found.symm.trans same
      exact sliceInner_ne quoted trimmed.symm
    have plain := isQuoted_getQueuePrefix_served unquoted
    rw [← agree.queuePrefix] at plain
    refine ⟨unquoted, ?_, ?_⟩
    · intro raw found
      by_contra quoted
      rw [isQuoted_getQueuePrefix found (Bool.of_not_eq_false quoted) (.inl rfl)] at plain
      cases plain
    · intro raw found quoted
      by_contra blank
      push Not at blank
      rw [isQuoted_getQueuePrefix found quoted (.inr ⟨rfl, blank⟩)] at plain
      cases plain
  · rintro ⟨unquoted, explicitPlain, fallbackPlain⟩
    refine ⟨?_, ?_⟩
    · intro name value normal present
      obtain ⟨raw, found, trimmed, filled⟩ := exists_raw_of_served unquoted normal present
      exact requireEnv_eq_ok_iff.mpr ⟨raw, found, filled, trimmed⟩
    · have same : ∀ raw, env "RMQ_QUEUE_PREFIX" = some raw →
          trimEnvValues env "RMQ_QUEUE_PREFIX" = some (trim raw) := by
        intro raw found
        rw [trimEnvValues, found, Option.map_some,
          trimEnvValue_of_unquoted (explicitPlain raw found)]
      by_cases explicit : ∃ raw, env "RMQ_QUEUE_PREFIX" = some raw ∧ trim raw ≠ ""
      · obtain ⟨raw, found, present⟩ := explicit
        rw [getQueuePrefix_of_explicit found present,
          getQueuePrefix_of_explicit (same raw found) (by rwa [trim_trim]), trim_trim]
      · push Not at explicit
        have blank : ∀ value, trimEnvValues env "RMQ_QUEUE_PREFIX" = some value →
            trim value = "" := by
          intro value normal
          obtain ⟨raw, found, -⟩ := Option.map_eq_some_iff.mp normal
          rw [same raw found] at normal
          rw [← Option.some.inj normal, trim_trim, explicit raw found]
        rw [getQueuePrefix_of_blank explicit, getQueuePrefix_of_blank blank]
        cases found : env "NODE_ENV" with
        | none =>
            rw [trimEnvValues, found]
            rfl
        | some raw =>
            have plain : isQuoted (trim raw) = false := by
              by_contra quoted
              obtain ⟨text, given, present⟩ :=
                fallbackPlain raw found (Bool.of_not_eq_false quoted)
              exact present (explicit text given)
            rw [trimEnvValues, found, Option.map_some, Option.map_some, Option.map_some,
              trimEnvValue_of_unquoted plain, trim_trim]

/-- A broker's address with a line break after it. -/
def spacedEnv : ProcessEnv := fun name =>
  if name = "RABBITMQ_URL" then some "amqp://mq\n" else none

/-- An environment whose values only carry blanks around them passes the boundary, and both
readings of it agree. -/
theorem readsAgree_iff_spaced :
    validateEnvWith ⟨"UserConfig", fun _ => []⟩ spacedEnv = .ok (trimEnvValues spacedEnv) ∧
      ReadsAgree spacedEnv (trimEnvValues spacedEnv) := by
  have accepted : validateEnvWith ⟨"UserConfig", fun _ => []⟩ spacedEnv =
    .ok (trimEnvValues spacedEnv) := rfl
  have plain : ∀ name raw, spacedEnv name = some raw → isQuoted (trim raw) = false := by
    intro name raw found
    unfold spacedEnv at found
    split at found
    · cases found
      rfl
    · cases found
  refine ⟨accepted, (readsAgree_iff accepted).mpr ⟨?_, plain _, ?_⟩⟩
  · intro name raw found quoted
    rw [plain name raw found] at quoted
    cases quoted
  · intro raw found quoted
    rw [plain _ raw found] at quoted
    cases quoted

/-- A broker's address in quotes, and nothing else. -/
def quotedEnv : ProcessEnv := fun name =>
  if name = "RABBITMQ_URL" then some "'amqp://mq'" else none

/-- The quotes around an accepted address are taken off in what the boundary serves. Where
the address is read from `process.env` they stay, since `requireEnv` only trims. -/
theorem not_readsAgree_of_quoted : ¬∀ (cls : ConfigClass) (env served : ProcessEnv),
    validateEnvWith cls env = .ok served → ReadsAgree env served := by
  intro agrees
  have agree := agrees ⟨"UserConfig", fun _ => []⟩ quotedEnv _ rfl
  have read := agree.required "RABBITMQ_URL" "amqp://mq" rfl (by decide)
  exact absurd read (by decide)

end Agreement

end NestMonorepo
