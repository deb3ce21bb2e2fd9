import Mathlib.Data.List.Forall2
import Mathlib.Data.List.Infix
import NestMonorepo.Common.Text

/-! # Redacting secrets

`redactSecrets` walks a value that is about to be logged and replaces what stands under a
secret-sounding key. Every object that is not an array, an error, a date or a buffer is
rebuilt from its entries; after six steps the walk stops.
-/

namespace NestMonorepo

/-! ## JavaScript values -/

/-- What the walk returns as it is: primitives, numbers as their bits, and functions,
which are no `'object'` for `typeof`. -/
inductive Primitive where
  | undefined
  | null
  | boolean (value : Bool)
  | number (bits : BitVec 64)
  | bigint (value : Int)
  | string (value : String)
  | symbol (description : String)
  | function (reference : Nat)
  deriving DecidableEq

inductive PropertyKey where
  | string (name : String)
  | symbol (description : String)
  deriving DecidableEq

/-- The key of an own property, and whether it is enumerable. -/
structure Slot where
  key : PropertyKey
  enumerable : Bool := true
  deriving DecidableEq

/-- Whose instance an object is; `content` stands for what it holds besides its
properties. -/
inductive Kind where
  | plain
  | error (content : String)
  | date (content : Int)
  | buffer (content : List (BitVec 8))
  | instance (name content : String)
  deriving DecidableEq

/-- An acyclic value. The properties of an object are its own ones, in their order; those
of an array come without its items. An `heir` has another value for its prototype. -/
inductive Value where
  | primitive (value : Primitive)
  | array (items : List Value) (properties : List (Slot × Value))
  | object (kind : Kind) (properties : List (Slot × Value))
  | heir (prototype : Value) (properties : List (Slot × Value))

namespace Value

/-- `instanceof Error`, `instanceof Date` or `Buffer.isBuffer`. -/
def isLeft : Value → Bool
  | .object (.error _) _ => true
  | .object (.date _) _ => true
  | .object (.buffer _) _ => true
  | .heir prototype _ => prototype.isLeft
  | _ => false

def properties : Value → List (Slot × Value)
  | .primitive _ => []
  | .array _ properties => properties
  | .object _ properties => properties
  | .heir _ properties => properties

/-- `Object.entries`: the enumerable properties under strings. -/
def entries (value : Value) : List (String × Value) :=
  value.properties.filterMap fun property =>
    match property.1.key, property.1.enumerable with
    | .string name, true => some (name, property.2)
    | _, _ => none

/-- The key that `out[k] = v` takes for the prototype. -/
def prototypeKey : String := "__proto__"

/-- `out` after `out[k] = v` for each entry in turn. Under the prototype's key an object
or `null` becomes the prototype and anything else is lost. -/
def ofEntries (entries : List (String × Value)) : Value :=
  let properties := (entries.filter fun entry => entry.1 ≠ prototypeKey).map fun entry =>
    ({ key := .string entry.1 }, entry.2)
  match entries.find? fun entry => entry.1 = prototypeKey with
  | none => .object .plain properties
  | some (_, .primitive .null) => .heir (.primitive .null) properties
  | some (_, .primitive _) => .object .plain properties
  | some (_, prototype) => .heir prototype properties

end Value

/-! ## The walk -/

/-- The alternatives of `SECRET_KEY_RE`. -/
def secretNames : List String :=
  ["KEY", "SECRET", "TOKEN", "PASSWORD", "PASSWD", "PRIVATE", "AUTHORIZATION", "AUTH",
    "CREDENTIAL", "COOKIE", "SESSION", "API_KEY", "API_-KEY", "FINGERPRINT", "VERIFIER"]

/-- `SECRET_KEY_RE.test(k)`. -/
def isSecretKey (name : String) : Bool :=
  secretNames.any fun secret => decide (secret.toList <:+: name.toList.map Char.toUpper)

/-- `SECRET_REDACTED`. -/
def secretRedacted : Value := .primitive (.string "[REDACTED]")

/-- `MAX_DEPTH`. -/
def maxDepth : Nat := 6

/-- `redactSecrets` with some levels left to walk. -/
def redactLevels : Nat → Value → Value
  | 0, input => input
  | _ + 1, .primitive value => .primitive value
  | levels + 1, .array items _ => .array (items.map (redactLevels levels)) []
  | levels + 1, input =>
      if input.isLeft then input
      else Value.ofEntries (input.entries.map fun entry =>
        (entry.1, if isSecretKey entry.1 then secretRedacted else redactLevels levels entry.2))

def redactSecrets (input : Value) (depth : Nat := 0) : Value :=
  redactLevels (maxDepth + 1 - depth) input

/-- The recursion of the source. -/
theorem redactSecrets_eq (input : Value) (depth : Nat) : redactSecrets input depth =
    if depth > maxDepth then input
    else match input with
      | .primitive value => .primitive value
      | .array items _ => .array (items.map fun item => redactSecrets item (depth + 1)) []
      | input =>
          if input.isLeft then input
          else Value.ofEntries (input.entries.map fun entry => (entry.1,
            if isSecretKey entry.1 then secretRedacted
            else redactSecrets entry.2 (depth + 1))) := by
  by_cases deep : depth > maxDepth
  · rw [if_pos deep, redactSecrets, Nat.sub_eq_zero_of_le deep, redactLevels]
  · have left : maxDepth + 1 - depth = (maxDepth + 1 - (depth + 1)) + 1 := by omega
    rw [if_neg deep, redactSecrets, left]
    cases input <;> rfl

/-! ## Values that differ in secrets -/

def Slot.isSecret (slot : Slot) : Bool :=
  match slot.key with
  | .string name => isSecretKey name
  | .symbol _ => false

/-- The values agree but for what stands under secret keys, no deeper than some levels. -/
def Agree : Nat → Value → Value → Prop
  | 0, first, second => first = second
  | _ + 1, .primitive first, .primitive second => first = second
  | levels + 1, .array items properties, .array others properties' =>
      List.Forall₂ (Agree levels) items others ∧ List.Forall₂ (fun first second =>
        first.1 = second.1 ∧ (first.1.isSecret = true ∨ Agree levels first.2 second.2))
        properties properties'
  | levels + 1, .object kind properties, .object kind' properties' =>
      kind = kind' ∧ List.Forall₂ (fun first second =>
        first.1 = second.1 ∧ (first.1.isSecret = true ∨ Agree levels first.2 second.2))
        properties properties'
  | levels + 1, .heir prototype properties, .heir prototype' properties' =>
      Agree levels prototype prototype' ∧ List.Forall₂ (fun first second =>
        first.1 = second.1 ∧ (first.1.isSecret = true ∨ Agree levels first.2 second.2))
        properties properties'
  | _, _, _ => False

/-- The own properties of both agree as `Agree` asks. -/
abbrev AgreeOn (levels : Nat) (first second : Slot × Value) : Prop :=
  first.1 = second.1 ∧ (first.1.isSecret = true ∨ Agree levels first.2 second.2)

/-- Every value agrees with itself to every depth. -/
theorem Agree.refl (levels : Nat) (value : Value) : Agree levels value value := by
  induction levels generalizing value with
  | zero => rfl
  | succ levels ih =>
      have same : ∀ properties : List (Slot × Value),
          List.Forall₂ (AgreeOn levels) properties properties := fun properties =>
        List.forall₂_same.mpr fun property _ => ⟨rfl, .inr (ih property.2)⟩
      cases value with
      | primitive value => rfl
      | array items properties => exact ⟨List.forall₂_same.mpr fun item _ => ih item, same _⟩
      | object kind properties => exact ⟨rfl, same _⟩
      | heir prototype properties => exact ⟨ih prototype, same _⟩

/-- What agrees to a depth agrees to one level more. The induction is on the levels, and
each shape of value is compared with its own kind only. -/
theorem Agree.succ {levels : Nat} {first second : Value} (agree : Agree levels first second) :
    Agree (levels + 1) first second := by
  induction levels generalizing first second with
  | zero =>
      cases agree
      exact .refl 1 first
  | succ levels ih =>
      have on : ∀ {properties others : List (Slot × Value)},
          List.Forall₂ (AgreeOn levels) properties others →
            List.Forall₂ (AgreeOn (levels + 1)) properties others :=
        fun both => both.imp fun _ _ held => ⟨held.1, held.2.imp_right ih⟩
      cases first with
      | primitive value =>
          cases second with
          | primitive other => exact agree
          | _ => exact agree.elim
      | array items properties =>
          cases second with
          | array others properties' => exact ⟨agree.1.imp fun _ _ => ih, on agree.2⟩
          | _ => exact agree.elim
      | object kind properties =>
          cases second with
          | object kind' properties' => exact ⟨agree.1, on agree.2⟩
          | _ => exact agree.elim
      | heir prototype properties =>
          cases second with
          | heir prototype' properties' => exact ⟨ih agree.1, on agree.2⟩
          | _ => exact agree.elim

/-! ## What the output shows -/

/-- Reached from a value in at most so many steps to an item, a property or the
prototype. -/
inductive Within : Nat → Value → Value → Prop
  | here {steps value} : Within steps value value
  | item {steps item items properties value} : item ∈ items → Within steps item value →
      Within (steps + 1) (.array items properties) value
  | property {steps whole property value} : property ∈ Value.properties whole →
      Within steps property.2 value → Within (steps + 1) whole value
  | prototype {steps prototype properties value} : Within steps prototype value →
      Within (steps + 1) (.heir prototype properties) value

/-- Built from primitives, arrays and plain objects. -/
inductive BuiltPlain : Value → Prop
  | primitive (value : Primitive) : BuiltPlain (.primitive value)
  | array {items} (properties : List (Slot × Value)) : (∀ item ∈ items, BuiltPlain item) →
      BuiltPlain (.array items properties)
  | object {properties} : (∀ property ∈ properties, BuiltPlain property.2) →
      BuiltPlain (.object .plain properties)

/-- Every secret among the own properties is redacted. -/
def SecretsRedacted (value : Value) : Prop :=
  ∀ property ∈ value.properties, property.1.isSecret = true → property.2 = secretRedacted

/-- The entries of a value are its enumerable properties with a string key. -/
theorem Value.mem_entries {value : Value} {name : String} {held : Value} :
    (name, held) ∈ value.entries ↔ ({ key := .string name }, held) ∈ value.properties := by
  rw [Value.entries, List.mem_filterMap]
  constructor
  · rintro ⟨⟨⟨key, enumerable⟩, other⟩, member, taken⟩
    cases key with
    | symbol description => cases taken
    | string other => cases enumerable <;> cases taken; exact member
  · exact fun member => ⟨_, member, rfl⟩

/-- The object that is put together has the entries, but for the prototype's. -/
theorem Value.properties_ofEntries (entries : List (String × Value)) :
    (ofEntries entries).properties = (entries.filter fun entry => entry.1 ≠ prototypeKey).map
      fun entry => ({ key := .string entry.1 }, entry.2) := by
  rw [ofEntries]
  split <;> rfl

/-- An object made from entries has no properties but theirs. -/
theorem Value.mem_properties_ofEntries {entries : List (String × Value)} {property : Slot × Value}
    (member : property ∈ (Value.ofEntries entries).properties) :
    ∃ name, property.1 = { key := .string name } ∧ (name, property.2) ∈ entries := by
  rw [properties_ofEntries] at member
  obtain ⟨entry, inside, rfl⟩ := List.mem_map.mp member
  exact ⟨entry.1, rfl, List.mem_of_mem_filter inside⟩

/-- Its prototype is one of the entries. -/
theorem Value.prototype_ofEntries {entries : List (String × Value)} {prototype : Value}
    {properties : List (Slot × Value)} (put : ofEntries entries = .heir prototype properties) :
    (prototypeKey, prototype) ∈ entries := by
  have entry_of : ∀ {name value}, entries.find? (fun entry => entry.1 = prototypeKey) =
      some (name, value) → (prototypeKey, value) ∈ entries := by
    intro name value found
    have holds := List.find?_some found
    have same : name = prototypeKey := of_decide_eq_true holds
    rw [← same]
    exact List.mem_of_find?_eq_some found
  rw [ofEntries] at put
  split at put
  · cases put
  · rename_i found
    cases put
    exact entry_of found
  · cases put
  · rename_i found
    cases put
    exact entry_of found

/-- The prototype key is not one of the secret keys. -/
theorem not_isSecretKey_prototype : isSecretKey Value.prototypeKey = false := by decide

/-- No object that the walk comes to shows a secret. The induction is on the levels of the
walk, which are more than the steps to the object. -/
theorem secretsRedacted_of_within {input value : Value} {levels steps : Nat}
    (built : BuiltPlain input) (less : steps < levels)
    (within : Within steps (redactLevels levels input) value) : SecretsRedacted value := by
  induction levels generalizing input steps with
  | zero => exact (Nat.not_lt_zero _ less).elim
  | succ levels ih =>
      cases built with
      | primitive held =>
          cases within with
          | here => exact fun _ none => (List.not_mem_nil none).elim
          | property none _ => exact (List.not_mem_nil none).elim
      | @array items properties plain =>
          cases within with
          | here => exact fun _ none => (List.not_mem_nil none).elim
          | property none _ => exact (List.not_mem_nil none).elim
          | item member further =>
              obtain ⟨item, inside, rfl⟩ := List.mem_map.mp member
              exact ih (plain item inside) (Nat.lt_of_succ_lt_succ less) further
      | @object properties plain =>
          have entry_of : ∀ {name held}, (name, held) ∈
              (Value.object .plain properties).entries.map (fun entry => (entry.1,
                if isSecretKey entry.1 then secretRedacted else redactLevels levels entry.2)) →
              (isSecretKey name = true ∧ held = secretRedacted) ∨
                isSecretKey name = false ∧
                  ∃ old, BuiltPlain old ∧ held = redactLevels levels old := by
            intro name held member
            obtain ⟨entry, inside, same⟩ := List.mem_map.mp member
            cases same
            cases secret : isSecretKey entry.1 with
            | true => exact .inl ⟨rfl, if_pos rfl⟩
            | false =>
                refine .inr ⟨rfl, entry.2, plain _ (Value.mem_entries.mp inside), ?_⟩
                exact if_neg Bool.false_ne_true
          have deeper : ∀ {steps held}, steps < levels → Within steps held value →
              (held = secretRedacted ∨ ∃ old, BuiltPlain old ∧ held = redactLevels levels old) →
              SecretsRedacted value := by
            rintro steps held less further (rfl | ⟨old, built, rfl⟩)
            · cases further with
              | here => exact fun _ none => (List.not_mem_nil none).elim
              | property none _ => exact (List.not_mem_nil none).elim
            · exact ih built less further
          change Within steps (Value.ofEntries _) value at within
          generalize put : Value.ofEntries _ = output at within
          cases within with
          | here =>
              subst put
              intro property member secret
              obtain ⟨name, slot, listed⟩ := Value.mem_properties_ofEntries member
              rcases entry_of listed with ⟨-, redacted⟩ | ⟨unlocked, -⟩
              · exact redacted
              · rw [slot] at secret
                cases unlocked.symm.trans secret
          | item member further =>
              exfalso
              rw [Value.ofEntries] at put
              split at put <;> cases put
          | property member further =>
              subst put
              obtain ⟨name, -, listed⟩ := Value.mem_properties_ofEntries member
              refine deeper (Nat.lt_of_succ_lt_succ less) further ?_
              rcases entry_of listed with ⟨-, redacted⟩ | ⟨-, held⟩
              · exact .inl redacted
              · exact .inr held
          | prototype further =>
              refine deeper (Nat.lt_of_succ_lt_succ less) further ?_
              rcases entry_of (Value.prototype_ofEntries put) with ⟨secret, -⟩ | ⟨-, held⟩
              · cases not_isSecretKey_prototype.symm.trans secret
              · exact .inr held

/-! ## What the output depends on -/

/-- Lists whose elements are related pairwise, by a relation on which two partial maps
agree, are mapped to the same list. -/
theorem filterMap_eq_of_forall₂ {α β γ : Type} {related : α → β → Prop} {f : α → Option γ}
    {g : β → Option γ} {first : List α} {second : List β}
    (both : List.Forall₂ related first second)
    (same : ∀ left ∈ first, ∀ right, related left right → f left = g right) :
    first.filterMap f = second.filterMap g := by
  induction both with
  | nil => rfl
  | @cons left right first second held both ih =>
      rw [List.filterMap_cons, List.filterMap_cons, same left List.mem_cons_self right held,
        ih fun other member => same other (List.mem_cons_of_mem _ member)]

/-- The entries as the walk copies them. -/
def copied (levels : Nat) (property : Slot × Value) : Option (String × Value) :=
  match property.1.key, property.1.enumerable with
  | .string name, true =>
      some (name, if isSecretKey name then secretRedacted else redactLevels levels property.2)
  | _, _ => none

/-- Walking the entries of a value is copying its properties: symbols and hidden properties
fall away and secrets are replaced. -/
theorem map_entries (value : Value) (levels : Nat) :
    value.entries.map (fun entry => (entry.1,
      if isSecretKey entry.1 then secretRedacted else redactLevels levels entry.2)) =
      value.properties.filterMap (copied levels) := by
  rw [Value.entries, List.map_filterMap]
  congr 1
  funext property
  rcases property with ⟨⟨key, enumerable⟩, held⟩
  cases key <;> cases enumerable <;> rfl

/-- An object that is walked into is answered as a new object of its copied properties, each
one level less deep. -/
theorem redactLevels_object {kind : Kind} {properties : List (Slot × Value)}
    (walked : (Value.object kind properties).isLeft = false) (levels : Nat) :
    redactLevels (levels + 1) (.object kind properties) =
      Value.ofEntries (properties.filterMap (copied levels)) := by
  change (if (Value.object kind properties).isLeft = true then _ else _) = _
  rw [walked, if_neg Bool.false_ne_true, map_entries]
  rfl

/-- An object with a prototype of its own is answered in the same way, as a plain object of
its copied properties. -/
theorem redactLevels_heir {prototype : Value} {properties : List (Slot × Value)}
    (walked : (Value.heir prototype properties).isLeft = false) (levels : Nat) :
    redactLevels (levels + 1) (.heir prototype properties) =
      Value.ofEntries (properties.filterMap (copied levels)) := by
  change (if (Value.heir prototype properties).isLeft = true then _ else _) = _
  rw [walked, if_neg Bool.false_ne_true, map_entries]
  rfl

/-- Whether a slot is secret depends on its string key only. -/
theorem isSecret_string {name : String} {enumerable : Bool} :
    Slot.isSecret ⟨.string name, enumerable⟩ = isSecretKey name := rfl

/-- What stands under secret keys, no deeper than the walk goes, makes no difference to what
it answers. So nothing about the secrets can be read off the output. -/
theorem redactLevels_eq_of_agree {first second : Value} {covered levels : Nat}
    (built : BuiltPlain first) (agree : Agree covered first second) (within : covered ≤ levels) :
    redactLevels levels first = redactLevels levels second := by
  induction levels generalizing covered first second with
  | zero =>
      obtain rfl := Nat.le_zero.mp within
      exact congrArg _ agree
  | succ levels ih =>
      cases covered with
      | zero => exact congrArg _ agree
      | succ covered =>
          have less := Nat.le_of_succ_le_succ within
          cases built with
          | primitive value =>
              cases second with
              | primitive other => exact congrArg Value.primitive agree
              | _ => exact agree.elim
          | @array items properties plain =>
              cases second with
              | array others properties' =>
                  have same : items.map (redactLevels levels) =
                    others.map (redactLevels levels) := by
                    rw [← List.filterMap_eq_map]
                    refine filterMap_eq_of_forall₂ agree.1 fun item member other held => ?_
                    exact congrArg some (ih (plain item member) held less)
                  rw [redactLevels, redactLevels, same]
              | _ => exact agree.elim
          | @object properties plain =>
              cases second with
              | object kind properties' =>
                  obtain ⟨rfl, both⟩ := agree
                  rw [redactLevels_object rfl, redactLevels_object rfl]
                  congr 1
                  refine filterMap_eq_of_forall₂ both fun property member other held => ?_
                  obtain ⟨⟨key, enumerable⟩, value⟩ := property
                  obtain ⟨slot, value'⟩ := other
                  obtain ⟨rfl, agrees⟩ := held
                  cases key with
                  | symbol description => rfl
                  | string name =>
                      cases enumerable with
                      | false => rfl
                      | true =>
                          rcases agrees with secret | agrees
                          · rw [isSecret_string] at secret
                            simp only [copied, secret, ↓reduceIte]
                          · simp only [copied, ih (plain _ member) agrees less]
              | _ => exact agree.elim

/-- In what the walk covers no secret is shown and none makes a difference. -/
def NothingLeaks (covered : Nat → Prop) : Prop :=
  ∀ input, BuiltPlain input → ∀ steps, covered steps →
    (∀ value, Within steps (redactSecrets input) value → SecretsRedacted value) ∧
      ∀ other, Agree (steps + 1) input other → redactSecrets input = redactSecrets other

/-- Nothing leaks from objects that are at most six steps away from the logged value: the
walk reaches them and replaces their secrets. -/
theorem nothingLeaks_within : NothingLeaks fun steps => steps ≤ maxDepth := by
  intro input built steps near
  constructor
  · intro value within
    exact secretsRedacted_of_within built (Nat.lt_succ_of_le near) within
  · intro other agree
    exact redactLevels_eq_of_agree built agree (Nat.succ_le_succ near)

/-- A value under some objects, one in the other. -/
def nested : Nat → Value → Value
  | 0, value => value
  | levels + 1, value => .object .plain [({ key := .string "a" }, nested levels value)]

/-- A token seven steps away. -/
def deepToken : Value :=
  nested 7 (.object .plain [({ key := .string "token" }, .primitive (.string "t"))])

/-- Without a bound on the depth the secrets do leak: a token below the walk's last level is
answered as it stands. -/
theorem not_nothingLeaks_of_deepToken : ¬NothingLeaks fun _ => True := by
  intro nothing
  have built : ∀ levels value, BuiltPlain value → BuiltPlain (nested levels value) := by
    intro levels value built
    induction levels with
    | zero => exact built
    | succ levels ih =>
        refine .object fun property member => ?_
        rw [List.mem_singleton.mp member]
        exact ih
  have deep : BuiltPlain deepToken := by
    refine built 7 _ (.object fun property member => ?_)
    rw [List.mem_singleton.mp member]
    exact .primitive _
  have reached : ∀ levels value, Within levels (nested levels value) value := by
    intro levels value
    induction levels with
    | zero => exact .here
    | succ levels ih => exact .property List.mem_cons_self ih
  have left : redactSecrets deepToken = deepToken := rfl
  have shown : Within 7 (redactSecrets deepToken)
      (.object .plain [({ key := .string "token" }, .primitive (.string "t"))]) := by
    rw [left]
    exact reached 7 _
  have redacted := (nothing deepToken deep 7 trivial).1 _ shown _ List.mem_cons_self (by decide)
  exact absurd (Primitive.string.inj (Value.primitive.inj redacted)) (by decide)

/-! ## What the walk leaves as it is -/

/-- Redacting once more changes nothing, and redacting has changed only what stands under
secret keys. -/
def ChangesOnlySecrets (value : Value) : Prop :=
  redactSecrets (redactSecrets value) = redactSecrets value ∧
    ∃ levels, Agree levels value (redactSecrets value)

/-- A property that is copied under its key. -/
def Slot.isCopied (slot : Slot) : Prop :=
  ∃ name, slot = { key := .string name } ∧ name ≠ Value.prototypeKey

/-- As far as the walk goes there are, apart from errors, dates and buffers, only plain
objects with properties that are copied, and arrays with nothing but their items. -/
def OnlyData : Nat → Value → Prop
  | 0, _ => True
  | _ + 1, .primitive _ => True
  | levels + 1, .array items properties => properties = [] ∧ ∀ item ∈ items, OnlyData levels item
  | levels + 1, .object kind properties => (Value.object kind properties).isLeft = true ∨
      kind = .plain ∧ ∀ property ∈ properties, property.1.isCopied ∧
        (property.1.isSecret = true ∨ OnlyData levels property.2)
  | _ + 1, .heir prototype _ => prototype.isLeft = true

/-- A copied property in the output. -/
def copy (levels : Nat) (property : Slot × Value) : Slot × Value :=
  (property.1, if property.1.isSecret then secretRedacted else redactLevels levels property.2)

/-- Entries without the prototype key make a plain object that holds exactly them. -/
theorem Value.ofEntries_of_ne {entries : List (String × Value)}
    (ordinary : ∀ entry ∈ entries, entry.1 ≠ prototypeKey) : ofEntries entries =
      .object .plain (entries.map fun entry => ({ key := .string entry.1 }, entry.2)) := by
  have absent : entries.find? (fun entry => entry.1 = prototypeKey) = none := by
    rw [List.find?_eq_none]
    intro entry member
    rw [decide_eq_true_eq]
    exact ordinary entry member
  have all : entries.filter (fun entry => entry.1 ≠ prototypeKey) = entries := by
    rw [List.filter_eq_self]
    intro entry member
    exact decide_eq_true (ordinary entry member)
  rw [ofEntries, absent, all]

/-- A property that is copied has a string key other than the prototype's, and is answered
under that key. -/
theorem copied_of_isCopied {property : Slot × Value} (copies : property.1.isCopied)
    (levels : Nat) : ∃ name, name ≠ Value.prototypeKey ∧
      property.1 = { key := .string name } ∧
      copied levels property = some (name, (copy levels property).2) := by
  obtain ⟨slot, held⟩ := property
  obtain ⟨name, rfl, ordinary⟩ := copies
  exact ⟨name, ordinary, rfl, rfl⟩

/-- A plain object whose properties are all copied. -/
theorem redactLevels_plain {properties : List (Slot × Value)} {levels : Nat}
    (copies : ∀ property ∈ properties, property.1.isCopied) :
    redactLevels (levels + 1) (.object .plain properties) =
      .object .plain (properties.map (copy levels)) := by
  rw [redactLevels_object rfl, Value.ofEntries_of_ne]
  · congr 1
    rw [List.map_filterMap, ← List.filterMap_eq_map]
    apply List.filterMap_congr
    intro property member
    obtain ⟨name, -, slot, taken⟩ := copied_of_isCopied (copies property member) levels
    rw [taken, Option.map_some, Function.comp_apply, ← slot]
    rfl
  · intro entry member
    obtain ⟨property, inside, taken⟩ := List.mem_filterMap.mp member
    obtain ⟨name, ordinary, -, same⟩ := copied_of_isCopied (copies property inside) levels
    rw [same] at taken
    cases taken
    exact ordinary

/-- A value that is left as it is comes back unchanged at every level. -/
theorem redactLevels_of_isLeft {value : Value} (left : value.isLeft = true) (levels : Nat) :
    redactLevels levels value = value := by
  cases levels with
  | zero => rfl
  | succ levels =>
      cases value with
      | primitive value => rfl
      | array items properties => cases left
      | object kind properties => exact if_pos left
      | heir prototype properties => exact if_pos left

/-- Where there is only such data, the walk changes only secrets. The induction is on the
levels of the walk, over the shapes of a value. -/
theorem agree_redactLevels {value : Value} {levels : Nat} (data : OnlyData levels value) :
    Agree levels value (redactLevels levels value) := by
  induction levels generalizing value with
  | zero => rfl
  | succ levels ih =>
      cases value with
      | primitive value => rfl
      | array items properties =>
          obtain ⟨rfl, each⟩ := data
          refine ⟨?_, .nil⟩
          rw [List.forall₂_map_right_iff, List.forall₂_same]
          exact fun item member => ih (each item member)
      | object kind properties =>
          rcases data with left | ⟨rfl, each⟩
          · rw [redactLevels_of_isLeft left]
            exact .refl _ _
          · rw [redactLevels_plain fun property member => (each property member).1]
            refine ⟨rfl, ?_⟩
            rw [List.forall₂_map_right_iff, List.forall₂_same]
            intro property member
            refine ⟨rfl, ?_⟩
            cases secret : property.1.isSecret with
            | true => exact .inl rfl
            | false =>
                refine .inr ?_
                rw [copy, secret, if_neg Bool.false_ne_true]
                rcases (each property member).2 with hidden | data
                · cases secret.symm.trans hidden
                · exact ih data
      | heir prototype properties =>
          have left : (Value.heir prototype properties).isLeft = true := data
          rw [redactLevels_of_isLeft left]
          exact .refl _ _

/-- Walking once more changes nothing: what the first walk has left of such data holds no
secret that is not replaced already. -/
theorem redactLevels_redactLevels {value : Value} {levels : Nat} (data : OnlyData levels value) :
    redactLevels levels (redactLevels levels value) = redactLevels levels value := by
  induction levels generalizing value with
  | zero => rfl
  | succ levels ih =>
      cases value with
      | primitive value => rfl
      | array items properties =>
          obtain ⟨rfl, each⟩ := data
          rw [redactLevels, redactLevels, List.map_map]
          congr 1
          exact List.map_congr_left fun item member => ih (each item member)
      | object kind properties =>
          rcases data with left | ⟨rfl, each⟩
          · rw [redactLevels_of_isLeft left, redactLevels_of_isLeft left]
          · have copies := fun property member => (each property member).1
            rw [redactLevels_plain copies, redactLevels_plain, List.map_map]
            · congr 1
              apply List.map_congr_left
              intro property member
              rw [Function.comp_apply, copy, copy]
              cases secret : property.1.isSecret with
              | true => rfl
              | false =>
                  simp only [Bool.false_eq_true, ↓reduceIte]
                  rcases (each property member).2 with hidden | data
                  · cases secret.symm.trans hidden
                  · rw [ih data]
            · intro property member
              obtain ⟨old, inside, rfl⟩ := List.mem_map.mp member
              exact copies old inside
      | heir prototype properties =>
          have left : (Value.heir prototype properties).isLeft = true := data
          rw [redactLevels_of_isLeft left, redactLevels_of_isLeft left]

/-- If as many properties are put together as there were, all of them were copied. -/
theorem isCopied_of_length {properties : List (Slot × Value)} {levels : Nat}
    (length : properties.length =
      (Value.ofEntries (properties.filterMap (copied levels))).properties.length) :
    ∀ property ∈ properties, property.1.isCopied := by
  rw [Value.properties_ofEntries, List.length_map, List.filter_filterMap] at length
  intro property member
  have kept := List.filterMap_length_eq_length.mp length.symm property member
  obtain ⟨⟨key, enumerable⟩, held⟩ := property
  cases key with
  | symbol description => cases kept
  | string name =>
      cases enumerable with
      | false => cases kept
      | true =>
          refine ⟨name, rfl, ?_⟩
          rintro rfl
          simp only [copied, Option.filter_some, ne_eq, not_true_eq_false, decide_false,
            Bool.false_eq_true, ↓reduceIte, Option.isSome_none] at kept

/-- Where no property is lost on the way, the walked object has exactly the copies of the
properties. -/
theorem ofEntries_of_length {properties : List (Slot × Value)} {levels : Nat}
    (length : properties.length =
      (Value.ofEntries (properties.filterMap (copied levels))).properties.length) :
    Value.ofEntries (properties.filterMap (copied levels)) =
      .object .plain (properties.map (copy levels)) :=
  (redactLevels_object rfl levels).symm.trans (redactLevels_plain (isCopied_of_length length))

/-- Where the walk changes only secrets, there is only such data. The induction is on the
levels; a property that is lost or rebuilt makes the lists of properties differ. -/
theorem onlyData_of_agree {value : Value} {covered levels : Nat}
    (agree : Agree covered value (redactLevels levels value)) : OnlyData levels value := by
  induction levels generalizing covered value with
  | zero => trivial
  | succ levels ih =>
      replace agree := agree.succ
      cases value with
      | primitive value => trivial
      | array items properties =>
          obtain ⟨each, rest⟩ := agree
          rw [List.forall₂_map_right_iff, List.forall₂_same] at each
          exact ⟨List.forall₂_nil_right_iff.mp rest, fun item member => ih (each item member)⟩
      | object kind properties =>
          by_cases left : (Value.object kind properties).isLeft = true
          · exact .inl left
          rw [redactLevels_object (eq_false_of_ne_true left)] at agree
          have length : properties.length =
              (Value.ofEntries (properties.filterMap (copied levels))).properties.length := by
            generalize Value.ofEntries (properties.filterMap (copied levels)) = output at agree ⊢
            cases output with
            | object kind' put => exact agree.2.length_eq
            | _ => exact agree.elim
          have copies := isCopied_of_length length
          rw [ofEntries_of_length length] at agree
          obtain ⟨rfl, each⟩ := agree
          rw [List.forall₂_map_right_iff, List.forall₂_same] at each
          refine .inr ⟨rfl, fun property member => ⟨copies property member, ?_⟩⟩
          cases secret : property.1.isSecret with
          | true => exact .inl rfl
          | false =>
              rcases (each property member).2 with hidden | agrees
              · cases secret.symm.trans hidden
              · rw [copy, secret, if_neg Bool.false_ne_true] at agrees
                exact .inr (ih agrees)
      | heir prototype properties =>
          by_contra left
          have walked : (Value.heir prototype properties).isLeft = false :=
            eq_false_of_ne_true left
          rw [redactLevels_heir walked] at agree
          have length : properties.length =
              (Value.ofEntries (properties.filterMap (copied levels))).properties.length := by
            generalize Value.ofEntries (properties.filterMap (copied levels)) = output at agree ⊢
            cases output with
            | heir prototype' put => exact agree.2.length_eq
            | _ => exact agree.elim
          rw [ofEntries_of_length length] at agree
          exact agree

/-- Redaction changes only secrets exactly where it walks over nothing but data: plain
objects with copied properties, arrays of items, and the errors, dates and buffers that it
leaves. -/
theorem changesOnlySecrets_iff (value : Value) :
    ChangesOnlySecrets value ↔ OnlyData (maxDepth + 1) value := by
  constructor
  · intro changes
    obtain ⟨-, levels, agree⟩ := changes
    exact onlyData_of_agree agree
  · intro data
    exact ⟨redactLevels_redactLevels data, maxDepth + 1, agree_redactLevels data⟩

/-- What the logger is given for `logger.log('info', 'ready')`. -/
def logInfo : Value :=
  .object .plain [({ key := .string "level" }, .primitive (.string "info")),
    ({ key := .string "message" }, .primitive (.string "ready")),
    ({ key := .symbol "level" }, .primitive (.string "info"))]

/-- The log entry that winston passes on carries its level under a symbol as well, which
`colorize` reads; the redacted copy no longer has it. -/
theorem not_changesOnlySecrets_of_logInfo : ¬∀ value, ChangesOnlySecrets value := by
  intro changes
  obtain ⟨-, levels, agree⟩ := changes logInfo
  have agree : Agree (levels + 1) logInfo (redactSecrets logInfo) := agree.succ
  have both := agree.2.length_eq
  cases both

end NestMonorepo
