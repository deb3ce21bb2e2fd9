import NestMonorepo.Database.DuplicateKey

/-! # To which field a duplicate key is attributed

The expression `\bfield(?:_|\b)` looks at whole words: it matches where a word of the message
is the field or continues it with an underscore. The message also names the index, and holds
the value that was refused, which clients choose.
-/

namespace NestMonorepo

/-! ## Words of a message -/

/-- A field's name: not empty, and all word characters. -/
def IsFieldName (field : String) : Prop :=
  field ≠ "" ∧ ∀ char ∈ field.toList, isWordChar char = true

/-- The word is the field, or continues it with an underscore. -/
def Continues (field word : List Char) : Prop := word = field ∨ field ++ ['_'] <+: word

/-- The longest runs of word characters, with an empty run between two other characters. -/
def wordsOf (text : List Char) : List (List Char) := text.splitOnP fun char => !isWordChar char

/-- A word of the text is the field or continues it. -/
def Mentions (field text : List Char) : Prop := ∃ word ∈ wordsOf text, Continues field word

section Words

variable {field text rest : List Char} {before : Option Char}

/-- A word character is prefixed to the first word of what follows. -/
theorem wordsOf_cons_word {char : Char} (isWord : isWordChar char = true) (text : List Char) :
    wordsOf (char :: text) = (wordsOf text).modifyHead (char :: ·) := by
  simp only [wordsOf, List.splitOnP_cons_eq_if_modifyHead, isWord, Bool.not_true,
    Bool.false_eq_true, ↓reduceIte]

/-- Any other character ends the word before it, so a new and empty one starts. -/
theorem wordsOf_cons_other {char : Char} (other : isWordChar char = false) (text : List Char) :
    wordsOf (char :: text) = [] :: wordsOf text := by
  simp only [wordsOf, List.splitOnP_cons_eq_if_modifyHead, other, Bool.not_false, ↓reduceIte]

/-- The first run is what stands before the first other character. -/
theorem head?_wordsOf (text : List Char) :
    (wordsOf text).head? = some (text.takeWhile isWordChar) := by
  induction text with
  | nil => rfl
  | cons char text ih =>
      cases isWord : isWordChar char with
      | true =>
          rw [wordsOf_cons_word isWord, List.head?_modifyHead, ih, List.takeWhile_cons, isWord]
          rfl
      | false =>
          rw [wordsOf_cons_other isWord, List.takeWhile_cons, isWord]
          rfl

/-- A text mentions a field in the word it starts with, or in one of the later ones. -/
theorem mentions_iff_head_tail : Mentions field text ↔
    Continues field (text.takeWhile isWordChar) ∨
      ∃ word ∈ (wordsOf text).tail, Continues field word := by
  have first := head?_wordsOf text
  unfold Mentions
  cases split : wordsOf text with
  | nil =>
      rw [split] at first
      cases first
  | cons word words =>
      rw [split] at first
      rw [← Option.some.inj first, List.exists_mem_cons_iff, List.tail_cons]

/-- Two texts with another character between them mention what either mentions. -/
theorem mentions_append_cons {separator : Char} (other : isWordChar separator = false) :
    Mentions field (text ++ separator :: rest) ↔ Mentions field text ∨ Mentions field rest := by
  have split : wordsOf (text ++ separator :: rest) = wordsOf text ++ wordsOf rest :=
    List.splitOnP_append_cons text rest (by rw [other, Bool.not_false])
  unfold Mentions
  simp only [split, List.mem_append, or_and_right, exists_or]

/-- A text of word characters is one word. -/
theorem mentions_of_word (word : ∀ char ∈ text, isWordChar char = true) :
    Mentions field text ↔ Continues field text := by
  have single : wordsOf text = [text] :=
    List.splitOnP_eq_singleton fun char member => by rw [word char member, Bool.not_true]
  unfold Mentions
  simp only [single, List.mem_singleton, exists_eq_left]

/-- What begins with the field continues it if nothing or an underscore follows. -/
theorem continues_append_iff {run : List Char} :
    Continues field (field ++ run) ↔ run = [] ∨ run.head? = some '_' := by
  unfold Continues
  rw [List.append_right_eq_self, List.prefix_append_right_inj]
  cases run with
  | nil => simp only [true_or]
  | cons char run =>
      simp only [reduceCtorEq, List.cons_prefix_cons, List.nil_prefix, and_true, false_or,
        List.head?_cons, Option.some.injEq]
      exact eq_comm

/-- A word that continues a field's name begins with it. -/
theorem Continues.begins {word : List Char} (continues : Continues field word) :
    field <+: word := by
  rcases continues with rfl | longer
  · exact List.prefix_rfl
  · exact (List.prefix_append field ['_']).trans longer

end Words

/-! ## What the expression matches -/

section Matching

variable {field text : List Char} {before : Option Char}

/-- The expression matches at the start of a text if no word character stands before it and
its first word continues the field. -/
theorem fieldMatchesHere_iff (nonempty : field ≠ [])
    (word : ∀ char ∈ field, isWordChar char = true) :
    fieldMatchesHere field before text = true ↔
      before.any isWordChar = false ∧ Continues field (text.takeWhile isWordChar) := by
  unfold fieldMatchesHere
  rw [Bool.and_eq_true, Bool.and_eq_true, List.isPrefixOf_iff_prefix, Bool.or_eq_true,
    decide_eq_true_eq]
  by_cases begins : field <+: text
  · obtain ⟨rest, rfl⟩ := begins
    obtain ⟨first, others, rfl⟩ := List.exists_cons_of_ne_nil nonempty
    have starts : wordBoundary before (first :: others ++ rest).head? = true ↔
        before.any isWordChar = false := by
      have isWord := word first List.mem_cons_self
      simp only [wordBoundary, List.cons_append, List.head?_cons, Option.any_some, isWord,
        bne_iff_ne, ne_eq, Bool.not_eq_true]
    have last : ((first :: others).getLast?.or before).any isWordChar = true := by
      rw [List.getLast?_eq_getLast_of_ne_nil nonempty, Option.some_or, Option.any_some]
      exact word _ (List.getLast_mem nonempty)
    rw [starts, List.drop_left, List.takeWhile_append_of_pos word, continues_append_iff]
    apply and_congr (and_iff_left (List.prefix_append _ rest))
    unfold wordBoundary
    rw [last]
    cases rest with
    | nil => simp only [List.head?_nil, reduceCtorEq, Option.any_none, bne_iff_ne, ne_eq,
        Bool.true_eq_false, not_false_eq_true, or_true, List.takeWhile_nil, true_or]
    | cons char rest =>
        cases isWord : isWordChar char with
        | true => simp only [List.head?_cons, Option.some.injEq, Option.any_some, isWord,
            bne_self_eq_false, Bool.false_eq_true, or_false, List.takeWhile_cons, ↓reduceIte,
            reduceCtorEq, false_or]
        | false => simp only [List.head?_cons, Option.some.injEq, Option.any_some, isWord,
            bne_iff_ne, ne_eq, Bool.true_eq_false, not_false_eq_true, or_true,
            List.takeWhile_cons, Bool.false_eq_true, ↓reduceIte, List.head?_nil, true_or]
  · constructor
    · exact fun matched => (begins matched.1.2).elim
    · exact fun found => (begins (found.2.begins.trans (List.takeWhile_prefix _))).elim

/-- It matches in the first word, unless that is the rest of one, or in a later word. -/
theorem fieldMatches_iff (nonempty : field ≠ []) (word : ∀ char ∈ field, isWordChar char = true) :
    fieldMatches field before text = true ↔
      (before.any isWordChar = false ∧ Continues field (text.takeWhile isWordChar)) ∨
        ∃ run ∈ (wordsOf text).tail, Continues field run := by
  induction text generalizing before with
  | nil =>
      rw [fieldMatches, fieldMatchesHere_iff nonempty word]
      exact (or_iff_left fun later => List.not_mem_nil later.choose_spec.1).symm
  | cons char text ih =>
      rw [fieldMatches, Bool.or_eq_true, fieldMatchesHere_iff nonempty word, ih]
      apply or_congr_right
      rw [Option.any_some]
      cases isWord : isWordChar char with
      | true =>
          simp only [Bool.true_eq_false, false_and, false_or, wordsOf_cons_word isWord,
            List.tail_modifyHead]
      | false =>
          simp only [true_and, wordsOf_cons_other isWord, List.tail_cons]
          exact mentions_iff_head_tail.symm

/-- In a whole text the expression finds the words that continue the field. -/
theorem fieldMatches_iff_mentions (nonempty : field ≠ [])
    (word : ∀ char ∈ field, isWordChar char = true) :
    fieldMatches field none text = true ↔ Mentions field text := by
  rw [fieldMatches_iff nonempty word, mentions_iff_head_tail, Option.any_none]
  simp only [true_and]

end Matching

/-! ## The attribution -/

/-- `E11000 … index: <indexed>_1 dup key: { <indexed>: <value> }`. -/
def duplicateKeyMessage (details indexed value : String) : String :=
  "E11000 " ++ details ++ " index: " ++ indexed ++ "_1 dup key: \x7b " ++ indexed ++ ": " ++
    value ++ " \x7d"

/-- The error is attributed to the field exactly if its key pattern has it or, without a key
pattern, if its message is about an index of the field. -/
structure AttributedExactly (error : MongoError) (field : String) : Prop where
  keyed : ∀ fields, error.keyPattern = some fields →
    (isDuplicateKeyError error field = true ↔ field ∈ fields)
  named : error.keyPattern = none → ∀ details indexed value, IsFieldName indexed →
    error.message = duplicateKeyMessage details indexed value →
      (isDuplicateKeyError error field = true ↔ indexed = field)

/-- A word of the message besides the indexed field itself is taken for the field: one that
every message has, the name of the index, a longer name of an indexed field, or a word of the
details or of the refused value. -/
def Misleads (field details indexed value : String) : Prop :=
  field ∈ ["E11000", "index", "dup", "key"] ∨ field = indexed ++ "_1" ∨
    field.toList ++ ['_'] <+: indexed.toList ∨ Mentions field.toList details.toList ∨
      Mentions field.toList value.toList

/-- The key pattern has the field or the message does not mention it; without a key pattern,
the index is the field's or no other word misleads. -/
structure Attributable (error : MongoError) (field : String) : Prop where
  keyed : ∀ fields, error.keyPattern = some fields →
    field ∈ fields ∨ ¬Mentions field.toList error.message.toList
  named : error.keyPattern = none → ∀ details indexed value, IsFieldName indexed →
    error.message = duplicateKeyMessage details indexed value →
      indexed = field ∨ ¬Misleads field details indexed value

section Attribution

variable {error : MongoError} {field details indexed value : String}

/-- The name of a field has at least one character. -/
theorem IsFieldName.toList_ne_nil (named : IsFieldName field) : field.toList ≠ [] :=
  fun empty => named.1 (String.toList_eq_nil_iff.mp empty)

/-- The empty text mentions no field. -/
theorem not_mentions_nil (named : IsFieldName field) : ¬Mentions field.toList [] := by
  rintro ⟨word, member, continues⟩
  rw [List.mem_singleton.mp member] at continues
  exact named.toList_ne_nil (List.prefix_nil.mp continues.begins)

/-- A separator in front of a text adds no mention of a field. -/
theorem mentions_cons {separator : Char} {rest : List Char} (named : IsFieldName field)
    (other : isWordChar separator = false) :
    Mentions field.toList (separator :: rest) ↔ Mentions field.toList rest := by
  have split : separator :: rest = [] ++ separator :: rest := rfl
  rw [split, mentions_append_cons other, or_iff_right (not_mentions_nil named)]

/-- A word without an underscore continues nothing but itself. -/
theorem mentions_of_plain {word : String} (plain : ∀ char ∈ word.toList, isWordChar char = true)
    (single : '_' ∉ word.toList) : Mentions field.toList word.toList ↔ field = word := by
  rw [mentions_of_word plain, Continues, String.toList_inj, or_iff_left, eq_comm]
  intro longer
  exact single (longer.subset (List.mem_append_right _ (List.mem_singleton.mpr rfl)))

/-- The name of an index is taken for the field it is on, and for those it seems to be on,
since the pattern asks for a field's name at the start of a word only. -/
theorem mentions_index (isName : IsFieldName indexed) :
    Mentions field.toList (indexed.toList ++ "_1".toList) ↔
      indexed = field ∨ field = indexed ++ "_1" ∨ field.toList ++ ['_'] <+: indexed.toList := by
  have suffix : "_1".toList = ['_', '1'] := by decide
  have ending : ∀ char ∈ ['_', '1'], isWordChar char = true :=
    List.all_eq_true.mp (by decide)
  have plain : ∀ char ∈ indexed.toList ++ ['_', '1'], isWordChar char = true := by
    intro char member
    rcases List.mem_append.mp member with inside | last
    · exact isName.2 char inside
    · exact ending char last
  have whole : indexed.toList ++ ['_', '1'] = field.toList ↔ field = indexed ++ "_1" := by
    rw [← suffix, ← String.toList_append, String.toList_inj, eq_comm]
  have longer : field.toList ++ ['_'] <+: indexed.toList ++ ['_', '1'] ↔
      indexed = field ∨ field.toList ++ ['_'] <+: indexed.toList := by
    have split : indexed.toList ++ ['_', '1'] = (indexed.toList ++ ['_']) ++ ['1'] := by
      rw [List.append_assoc]
      rfl
    rw [split, List.prefix_concat_iff, List.prefix_concat_iff, or_iff_right]
    · rw [List.append_left_inj, String.toList_inj, eq_comm]
    · intro same
      have last := (List.append_inj' same rfl).2
      cases last
  rw [suffix, mentions_of_word plain, Continues, whole, longer]
  exact or_left_comm

/-- A blank is no word character. -/
theorem isWordChar_space : isWordChar ' ' = false := by decide

/-- A colon is no word character. -/
theorem isWordChar_colon : isWordChar ':' = false := by decide

/-- A brace is no word character. -/
theorem isWordChar_brace : isWordChar '\x7b' = false := by decide

/-- The driver's message, taken apart into its words and the separators between them. -/
theorem toList_duplicateKeyMessage (details indexed value : String) :
    (duplicateKeyMessage details indexed value).toList =
      "E11000".toList ++ ' ' :: (details.toList ++ ' ' :: ("index".toList ++ ':' :: ' ' ::
        ((indexed.toList ++ "_1".toList) ++ ' ' :: ("dup".toList ++ ' ' :: ("key".toList ++ ':' ::
          ' ' :: '\x7b' :: ' ' :: (indexed.toList ++ ':' :: ' ' ::
            (value.toList ++ ' ' :: ['\x7d']))))))) := by
  have code : "E11000 ".toList = "E11000".toList ++ [' '] := by decide
  have index : " index: ".toList = ' ' :: ("index".toList ++ [':', ' ']) := by decide
  have key : "_1 dup key: \x7b ".toList = "_1".toList ++ ' ' :: ("dup".toList ++ ' ' ::
      ("key".toList ++ [':', ' ', '\x7b', ' '])) := by decide
  have colon : ": ".toList = [':', ' '] := by decide
  have brace : " \x7d".toList = [' ', '\x7d'] := by decide
  simp only [duplicateKeyMessage, String.toList_append, code, index, key, colon, brace,
    List.append_assoc, List.cons_append, List.nil_append]

/-- What a message of this form mentions: the field of the index, and whatever its details
and the duplicate value happen to spell. -/
theorem mentions_duplicateKeyMessage (named : IsFieldName field) (isName : IsFieldName indexed) :
    Mentions field.toList (duplicateKeyMessage details indexed value).toList ↔
      indexed = field ∨ Misleads field details indexed value := by
  have code : Mentions field.toList "E11000".toList ↔ field = "E11000" :=
    mentions_of_plain (List.all_eq_true.mp (by decide)) (by decide)
  have index : Mentions field.toList "index".toList ↔ field = "index" :=
    mentions_of_plain (List.all_eq_true.mp (by decide)) (by decide)
  have dup : Mentions field.toList "dup".toList ↔ field = "dup" :=
    mentions_of_plain (List.all_eq_true.mp (by decide)) (by decide)
  have key : Mentions field.toList "key".toList ↔ field = "key" :=
    mentions_of_plain (List.all_eq_true.mp (by decide)) (by decide)
  rw [toList_duplicateKeyMessage, mentions_append_cons isWordChar_space, code,
    mentions_append_cons isWordChar_space, mentions_append_cons isWordChar_colon, index,
    mentions_cons named isWordChar_space, mentions_append_cons isWordChar_space,
    mentions_index isName, mentions_append_cons isWordChar_space, dup,
    mentions_append_cons isWordChar_colon, key, mentions_cons named isWordChar_space,
    mentions_cons named isWordChar_brace, mentions_cons named isWordChar_space,
    mentions_append_cons isWordChar_colon, mentions_of_word isName.2,
    mentions_cons named isWordChar_space, mentions_append_cons isWordChar_space,
    mentions_cons named (by decide), or_iff_left (not_mentions_nil named)]
  unfold Misleads Continues
  rw [String.toList_inj]
  simp only [List.mem_cons, List.not_mem_nil, or_false]
  grind

/-- A duplicate key error is attributed to the field it is about, and to no other, exactly
under the conditions of `Attributable`: they speak of the error's key pattern and of its
message. -/
theorem attributedExactly_iff (code : error.code = 11000) (named : IsFieldName field) :
    AttributedExactly error field ↔ Attributable error field := by
  have searched : (∀ fields, error.keyPattern = some fields → field ∉ fields) →
      (isDuplicateKeyError error field = true ↔ Mentions field.toList error.message.toList) := by
    intro unkeyed
    have unlisted : error.keyPattern.any (fun fields => fields.contains field) = false := by
      cases pattern : error.keyPattern with
      | none => rfl
      | some fields =>
          rw [Option.any_some, List.contains_eq_mem, decide_eq_false_iff_not]
          exact unkeyed fields pattern
    rw [isDuplicateKeyError, if_neg (not_not.mpr code), if_neg named.1, unlisted,
      if_neg Bool.false_ne_true]
    exact fieldMatches_iff_mentions named.toList_ne_nil named.2
  constructor
  · intro exactly
    refine ⟨fun fields pattern => ?_, fun pattern details indexed value isName formed => ?_⟩
    · by_contra neither
      obtain ⟨unlisted, mentioned⟩ := not_or.mp neither
      have unkeyed : ∀ others, error.keyPattern = some others → field ∉ others := by
        intro others same
        cases pattern.symm.trans same
        exact unlisted
      exact unlisted ((exactly.keyed fields pattern).mp
        ((searched unkeyed).mpr (not_not.mp mentioned)))
    · by_cases same : indexed = field
      · exact .inl same
      · refine .inr fun misleads => same ?_
        apply (exactly.named pattern details indexed value isName formed).mp
        apply (searched fun others keyed => by cases pattern.symm.trans keyed).mpr
        rw [formed]
        exact (mentions_duplicateKeyMessage named isName).mpr (.inr misleads)
  · intro attributable
    refine ⟨fun fields pattern => ?_, fun pattern details indexed value isName formed => ?_⟩
    · constructor
      · intro attributed
        rcases attributable.keyed fields pattern with listed | unmentioned
        · exact listed
        · by_contra unlisted
          refine unmentioned ((searched fun others same => ?_).mp attributed)
          cases pattern.symm.trans same
          exact unlisted
      · exact isDuplicateKeyError_of_keyPattern code pattern
    · have unkeyed : ∀ others, error.keyPattern = some others → field ∉ others := by
        intro others keyed
        cases pattern.symm.trans keyed
      rw [searched unkeyed, formed, mentions_duplicateKeyMessage named isName]
      apply or_iff_left_of_imp
      intro misleads
      exact (attributable.named pattern details indexed value isName formed).resolve_right
        fun harmless => harmless misleads

end Attribution

/-- Every duplicate-key error is attributed exactly. -/
def AttributesExactly : Prop :=
  ∀ error field, error.code = 11000 → IsFieldName field → AttributedExactly error field

/-- A device's fingerprint is refused, and reads like the name of another field. -/
def fingerprintTaken : MongoError where
  code := 11000
  keyPattern := some ["fingerprint"]
  message := duplicateKeyMessage "duplicate key error collection: app.devices" "fingerprint"
    "\"email\""

/-- The name of the email field is that of a field. -/
theorem isFieldName_email : IsFieldName "email" :=
  ⟨by decide, List.all_eq_true.mp (by decide)⟩

/-- At the error of a taken fingerprint and the email field, the attribution is exact just
in case that error is attributable. -/
theorem attributedExactly_iff_email : AttributedExactly fingerprintTaken "email" ↔
    Attributable fingerprintTaken "email" :=
  attributedExactly_iff rfl isFieldName_email

/-- The value of a taken fingerprint may spell the name of another field. The message quotes
it, and the error is taken for one about the email. -/
theorem not_attributesExactly_of_value : ¬AttributesExactly := by
  intro exactly
  have attributed : isDuplicateKeyError fingerprintTaken "email" = true := by decide +kernel
  have keyed := (exactly fingerprintTaken "email" rfl isFieldName_email).keyed ["fingerprint"] rfl
  exact absurd (keyed.mp attributed) (by decide)

end NestMonorepo
