import OfflineSigner.Proofs.Json.TypedValue
import OfflineSigner.Proofs.Text.Name
import OfflineSigner.Proofs.Transaction.Layout
import OfflineSigner.Transaction.Format
import Mathlib.Data.Bool.AllAny
import Mathlib.Data.List.TFAE

/-!
# The forms of actions and densities

An action or a density is typed as a name, signed as a code and written in JSON as a word. The three
forms have tables of their own, each table tells all values apart, and the words are the names. So a
typed name, a signed byte and a JSON value that come from one value stand for that value and for no
other.
-/

namespace OfflineSigner

/-- The forms that the values of a closed list take, and how they are read. -/
structure Vocabulary (α : Type) where
  /-- The word of the wire format. -/
  name : α → String
  /-- The byte that is signed. -/
  code : α → UInt8
  /-- Reads a name typed by a user. -/
  ofName : String → Except ValueError α
  ofCode : UInt8 → Except ValueError α
  ofJson : Json → Except DecodeError α

namespace Vocabulary

variable {α : Type}

/-- Every form is read as the value whose form it is, and nothing else is read. -/
structure IsExact (vocabulary : Vocabulary α) : Prop where
  /-- Typed names are read exactly. -/
  readsNames : Text.ReadsNames vocabulary.name vocabulary.ofName
  /-- A byte is read as the value that has this code. -/
  ofCode_iff : ∀ code value, vocabulary.ofCode code = .ok value ↔ code = vocabulary.code value
  /-- A JSON value is read as the value whose name it is, letter by letter; the name may have a null
  beside it. -/
  ofJson_iff : ∀ json value, vocabulary.ofJson json = .ok value ↔
    json = .string (vocabulary.name value) ∨ json = .object [(vocabulary.name value, .null)]

/-- A typed text, a byte and a JSON value denote the same: each of them stands for a value, in
whichever way it is looked at, exactly when the others do. -/
def Agree (vocabulary : Vocabulary α) (typed : String) (byte? : Option UInt8)
    (json? : Option Json) : Prop :=
  ∀ value, List.TFAE [
    Text.IsTypedAs (vocabulary.name value) typed,
    vocabulary.ofName typed = .ok value,
    byte? = some (vocabulary.code value),
    byte?.map vocabulary.ofCode = some (.ok value),
    json? = some (.string (vocabulary.name value)),
    json?.map vocabulary.ofJson = some (.ok value),
    ∃ rendered, json? = some (.string rendered) ∧ vocabulary.ofName rendered = .ok value]

/-- The code and the name of the value that a typed text is read as agree with it. -/
theorem IsExact.agree {vocabulary : Vocabulary α} (h : vocabulary.IsExact) {typed : String}
    {value : α} (htyped : vocabulary.ofName typed = .ok value) :
    vocabulary.Agree typed (some (vocabulary.code value))
      (some (.string (vocabulary.name value))) := by
  have hcode : vocabulary.ofCode (vocabulary.code value) = .ok value := (h.ofCode_iff _ _).mpr rfl
  have hjson : vocabulary.ofJson (.string (vocabulary.name value)) = .ok value :=
    (h.ofJson_iff _ _).mpr (Or.inl rfl)
  have hname : vocabulary.ofName (vocabulary.name value) = .ok value :=
    (h.readsNames.ok_iff _ _).mpr (Text.isTypedAs_self _)
  intro other
  apply List.tfae_of_forall (value = other)
  simp only [List.forall_mem_cons, List.not_mem_nil, false_implies, implies_true, and_true]
  refine ⟨?_, ?_, ?_, ?_, ?_, ?_, ?_⟩
  · rw [← h.readsNames.ok_iff, htyped, Except.ok.injEq]
  · rw [htyped, Except.ok.injEq]
  · rw [Option.some.injEq, ← h.ofCode_iff, hcode, Except.ok.injEq]
  · rw [Option.map_some, hcode, Option.some.injEq, Except.ok.injEq]
  · constructor
    · intro hsame
      rw [Option.some.inj hsame, (h.ofJson_iff _ _).mpr (Or.inl rfl)] at hjson
      exact (Except.ok.inj hjson).symm
    · rintro rfl
      rfl
  · rw [Option.map_some, hjson, Option.some.injEq, Except.ok.injEq]
  · constructor
    · rintro ⟨rendered, hrendered, hread⟩
      obtain rfl := Json.string.inj (Option.some.inj hrendered)
      exact Except.ok.inj (hname.symm.trans hread)
    · rintro rfl
      exact ⟨_, rfl, hname⟩

end Vocabulary

namespace Json

variable {α : Type} {name : α → String} {values : List α}

/-- Only null is read as nothing. -/
theorem readNothing_eq_ok_iff {json : Json} {nothing : Unit} :
    json.readNothing = .ok nothing ↔ json = .null := by
  cases json <;> simp [readNothing]

/-- A choice is a text, or an object with a single member. -/
theorem readChoice_eq_ok_iff {json : Json} {chosen : String} {content? : Option Json} :
    json.readChoice = .ok (chosen, content?) ↔
      (json = .string chosen ∧ content? = none) ∨
        ∃ content, json = .object [(chosen, content)] ∧ content? = some content := by
  cases json with
  | object members =>
    match members with
    | [] => simp [readChoice]
    | [(other, content)] => simp [readChoice, eq_comm]
    | _ :: _ :: _ => simp [readChoice]
  | _ => simp [readChoice, eq_comm]

/-- A value is found by its name. -/
theorem lookup_map_name (key : String) (values : List α) :
    (values.map fun value => (name value, value)).lookup key =
      values.find? fun value => name value == key := by
  induction values with
  | nil => rfl
  | cons first rest ih => rw [List.map_cons, List.lookup_cons, List.find?_cons, ih, BEq.comm]

/-- A choice among values that carry nothing, with words that are their names, is read from the name
of the value, alone or with a null beside it. -/
theorem readNamed_eq_ok_iff {word : α → String} (hall : ∀ value, value ∈ values)
    (hword : ∀ value, word value = name value) (hname : Function.Injective name) {json : Json}
    {value : α} :
    json.readNamed (values.map fun value => (word value, value)) = .ok value ↔
      json = .string (name value) ∨ json = .object [(name value, .null)] := by
  obtain rfl : name = word := funext fun value => (hword value).symm
  have hfound : ∀ chosen, (values.map fun value => (name value, value)).lookup chosen = some value ↔
      chosen = name value := by
    intro chosen
    rw [lookup_map_name, List.find?_key_eq_some_iff hall hname]
  constructor
  · intro h
    obtain ⟨⟨chosen, content?⟩, hchoice, hread⟩ := Except.bind_eq_ok_iff.mp h
    cases hlookup : (values.map fun value => (name value, value)).lookup chosen with
    | none => simp [hlookup] at hread
    | some other =>
      rcases readChoice_eq_ok_iff.mp hchoice with ⟨rfl, rfl⟩ | ⟨content, rfl, rfl⟩
      · simp only [hlookup, Except.ok.injEq] at hread
        subst hread
        exact Or.inl (congrArg string ((hfound chosen).mp hlookup))
      · simp only [hlookup] at hread
        obtain ⟨_, hnothing, hother⟩ := Except.bind_eq_ok_iff.mp hread
        cases hother
        rw [readNothing_eq_ok_iff.mp hnothing, (hfound chosen).mp hlookup]
        exact Or.inr rfl
  · have hlookup := (hfound (name value)).mpr rfl
    rintro (rfl | rfl)
    · simp only [readNamed, readChoice, Except.ok_bind, hlookup]
    · simp only [readNamed, readChoice, Except.ok_bind, hlookup, readNothing]

end Json

/-! ## The two vocabularies -/

namespace AssetAction

/-- The forms of actions. -/
def vocabulary : Vocabulary AssetAction := ⟨name, code, ofName, ofCode, ofJson⟩

/-- The two readers are compared by name: to evaluate them is to search the names for a text that is
not known. -/
theorem vocabulary_ofName : vocabulary.ofName = ofName := by
  rw [vocabulary]

/-- Actions have clear names. -/
theorem clearNames : Text.ClearNames name where
  isLetter action := by
    rw [← List.all_iff_forall_prop]
    cases action <;> decide
  injective := by
    intro first second h
    cases first <;> cases second <;> first | rfl | (exact absurd h (by decide))

/-- The forms of actions are read exactly. -/
theorem isExact_vocabulary : vocabulary.IsExact where
  readsNames := by
    apply (clearNames.readsNames mem_all).congr
    intro text
    rw [vocabulary_ofName, ofName]
  ofCode_iff _ _ := ofCode_eq_ok_iff
  ofJson_iff _ _ := Json.readNamed_eq_ok_iff mem_all variant_eq_name clearNames.name_injective

/-- An action that is typed, its code and its name denote the same. -/
theorem agree {typed : String} {action : AssetAction} (h : ofName typed = .ok action) :
    vocabulary.Agree typed (some action.code) (some (.string action.name)) :=
  isExact_vocabulary.agree (vocabulary_ofName ▸ h)

end AssetAction

namespace Density

/-- The forms of densities. -/
def vocabulary : Vocabulary Density := ⟨name, code, ofName, ofCode, ofJson⟩

/-- The two readers are compared by name: to evaluate them is to search the names for a text that is
not known. -/
theorem vocabulary_ofName : vocabulary.ofName = ofName := by
  rw [vocabulary]

/-- Densities have clear names. -/
theorem clearNames : Text.ClearNames name where
  isLetter level := by
    rw [← List.all_iff_forall_prop]
    cases level <;> decide
  injective := by
    intro first second h
    cases first <;> cases second <;> first | rfl | (exact absurd h (by decide))

/-- The forms of densities are read exactly. -/
theorem isExact_vocabulary : vocabulary.IsExact where
  readsNames := by
    apply (clearNames.readsNames mem_all).congr
    intro text
    rw [vocabulary_ofName, ofName]
  ofCode_iff _ _ := ofCode_eq_ok_iff
  ofJson_iff _ _ := Json.readNamed_eq_ok_iff mem_all variant_eq_name clearNames.name_injective

/-- A density that is typed, its code and its name denote the same. -/
theorem agree {typed : String} {level : Density} (h : ofName typed = .ok level) :
    vocabulary.Agree typed (some level.code) (some (.string level.name)) :=
  isExact_vocabulary.agree (vocabulary_ofName ▸ h)

end Density

namespace AssetTransaction

/-- The code of the action stands in the signed bytes. -/
theorem getElem?_payload_action (asset : AssetTransaction) :
    asset.payload[45]? = some asset.action.code := by
  have haction := ((asset.isReadFrom_iff _).mpr rfl).action
  simpa [Option.map_eq_some_iff, AssetAction.ofCode_eq_ok_iff] using haction

/-- The code of the density stands in the signed bytes. -/
theorem getElem?_payload_density (asset : AssetTransaction) :
    asset.payload[110]? = some asset.density.code := by
  have hdensity := ((asset.isReadFrom_iff _).mpr rfl).density
  simpa [Option.map_eq_some_iff, Density.ofCode_eq_ok_iff] using hdensity

/-- The name of the action is a member of the JSON value. -/
theorem member?_toJson_action (asset : AssetTransaction) :
    asset.toJson.member? "action" = some (.string asset.action.name) := by
  simp [toJson, Json.member?, List.lookup_cons, AssetAction.toJson]

/-- The name of the density is a member of the JSON value. -/
theorem member?_toJson_density (asset : AssetTransaction) :
    asset.toJson.member? "density" = some (.string asset.density.name) := by
  simp [toJson, Json.member?, List.lookup_cons, Density.toJson]

/-- What is typed for the action and the density of a transaction, their codes in its signed bytes
and their names in its JSON value denote the same. -/
theorem agree (asset : AssetTransaction) {action density : String}
    (haction : AssetAction.ofName action = .ok asset.action)
    (hdensity : Density.ofName density = .ok asset.density) :
    AssetAction.vocabulary.Agree action asset.payload[45]? (asset.toJson.member? "action") ∧
      Density.vocabulary.Agree density asset.payload[110]? (asset.toJson.member? "density") := by
  rw [asset.getElem?_payload_action, asset.getElem?_payload_density, asset.member?_toJson_action,
    asset.member?_toJson_density]
  exact ⟨AssetAction.agree haction, Density.agree hdensity⟩

end AssetTransaction

end OfflineSigner
