import OfflineSigner.Proofs.Json.TypedValue

/-!
# Ways to write and to read that belong together

A type has a way to write its values as JSON and a way to read them. The two belong together when
every value is written without doubles and is read as it was written; the text of a value then
stands for that value alone. Records are read by the names of their members, so for them it is
enough that the names are distinct and that each field is read from the member of its name.
-/

namespace OfflineSigner

namespace Json

variable {α : Type} {write : α → Json} {read : Json → Except DecodeError α}

/-- What a text is read as, if it is JSON. -/
def readText? (read : Json → Except DecodeError α) (text : String) :
    Option (Except DecodeError α) :=
  (parse? text).map read

/-- A way to write and a way to read that belong together. -/
structure ReadsBack (write : α → Json) (read : Json → Except DecodeError α) : Prop where
  /-- What is written holds no double. -/
  exact : ∀ value, Exact (write value)
  /-- What is written for a value is read as that value. -/
  read_write : ∀ value, read (write value) = .ok value

/-- The values of a type survive as text. -/
structure SurvivesAsText (write : α → Json) (read : Json → Except DecodeError α) : Prop where
  /-- The text of a value is read as that value. -/
  readText?_render : ∀ value, readText? read (write value).render = some (.ok value)
  /-- Different values have different texts. -/
  render_injective : ∀ value other, (write value).render = (write other).render → value = other

/-- A way to write and a way to read that belong together let values survive as text. -/
theorem ReadsBack.survivesAsText (h : ReadsBack write read) : SurvivesAsText write read where
  readText?_render value := by
    rw [readText?, parse?_render (h.exact value), Option.map_some, h.read_write]
  render_injective value other htext := by
    have hparsed := parse?_render (h.exact value)
    rw [htext, parse?_render (h.exact other)] at hparsed
    have hread := h.read_write value
    rw [← Option.some.inj hparsed, h.read_write] at hread
    exact (Except.ok.inj hread).symm

/-- What is read from the text of a value is that value. -/
theorem SurvivesAsText.eq_of_readText? (h : SurvivesAsText write read) {value again : α}
    (hread : readText? read (write value).render = some (.ok again)) : again = value := by
  rw [h.readText?_render] at hread
  exact (Except.ok.inj (Option.some.inj hread)).symm

/-- An object in which each member has a name of its own. -/
def IsRecord (json : Json) : Prop :=
  ∃ members, json = .object members ∧ (members.map Prod.fst).Nodup

/-- Numbers are read back. -/
theorem readsBack_ofUInt64 : ReadsBack ofUInt64 readUInt64 :=
  ⟨exact_ofUInt64, readUInt64_ofUInt64⟩

/-- Texts are read back. -/
theorem readsBack_string : ReadsBack .string readString :=
  ⟨Exact.string, fun _ => rfl⟩

/-- Values that may be absent are read back if none of them is written like an absent one. -/
theorem ReadsBack.ofOption (h : ReadsBack write read) (hnull : ∀ value, write value ≠ .null) :
    ReadsBack (ofOption write) (readOptional read) where
  exact
    | none => .null
    | some value => h.exact value
  read_write
    | none => rfl
    | some value => by
      rw [Json.ofOption, readOptional, h.read_write]
      · rfl
      · exact hnull value

/-- A number that may be absent is read back. -/
theorem readsBack_ofOption_ofUInt64 : ReadsBack (ofOption ofUInt64) (readOptional readUInt64) := by
  apply readsBack_ofUInt64.ofOption
  intro value hnull
  contradiction

/-- A byte is read back. -/
theorem readByte_integer (byte : UInt8) : readByte (.integer byte.toNat) = .ok byte := by
  have hbound := byte.toNat_lt
  rw [readByte, readNatural, if_pos (by omega)]
  change Except.ok (UInt8.ofNat byte.toNat) = .ok byte
  rw [UInt8.ofNat_toNat]

/-- A row of bytes of a fixed length is read back. -/
theorem readsBack_ofBytes (n : Nat) :
    ReadsBack (fun bytes : FixedBytes n => ofBytes bytes.toList) (readFixedBytes n) where
  exact bytes := by
    refine .array fun item hitem => ?_
    obtain ⟨byte, -, rfl⟩ := List.mem_map.mp hitem
    have hbound := byte.toNat_lt
    exact .integer (by omega) (by omega)
  read_write bytes := by
    have hlength : (bytes.toList.map fun byte => integer byte.toNat).length = n := by
      rw [List.length_map, bytes.length_toList]
    have hbytes := Except.mapM_map_eq_ok readByte_integer bytes.toList
    rw [ofBytes, readFixedBytes, List.take_of_length_le hlength.le, hbytes, Except.ok_bind,
      FixedBytes.ofList?_toList]
    exact if_pos hlength.le

end Json

namespace RecordReader

open Json (ReadsBack)

variable {α β : Type} {find : String → Option Json}

/-- The values found under names are those of a record: no field refuses its value, and the record
is made of them whatever the error of a missing field is. -/
structure Accepts (reader : RecordReader α) (find : String → Option Json) (record : α) : Prop where
  /-- No field refuses the value that is found under its name. -/
  fault?_eq_none : ∀ field ∈ reader.fields, ∀ value, find field.name = some value →
    field.fault? value = none
  build_eq : ∀ absent, reader.build find absent = .ok record

/-- A field that has to be there is read from what was written for it. -/
theorem accepts_required {write : α → Json} {read : Json → Except DecodeError α}
    (h : ReadsBack write read) {name : String} {content : α}
    (hfind : find name = some (write content)) :
    (required name read).Accepts find content where
  fault?_eq_none field hfield value hvalue := by
    obtain rfl := List.mem_singleton.mp hfield
    obtain rfl := Option.some.inj (hfind.symm.trans hvalue)
    simp [faultOf, h.read_write]
  build_eq absent := by
    simp [required, hfind, h.read_write]

/-- So is a field that has a default. -/
theorem accepts_withDefault {write : α → Json} {read : Json → Except DecodeError α}
    (h : ReadsBack write read) {name : String} {content : α}
    (hfind : find name = some (write content)) (default : α) :
    (withDefault name read default).Accepts find content where
  fault?_eq_none := (accepts_required h hfind).fault?_eq_none
  build_eq absent := by
    simp [withDefault, hfind, h.read_write]

/-- What is made of a record is made of its values. -/
theorem Accepts.map {reader : RecordReader α} {record : α} (f : α → β)
    (h : reader.Accepts find record) : (f <$> reader).Accepts find (f record) where
  fault?_eq_none := h.fault?_eq_none
  build_eq absent := by
    change (reader.build find absent).map f = .ok (f record)
    rw [h.build_eq, Except.map]

/-- Fields are added to a record one after the other. -/
theorem Accepts.seq {function : RecordReader (α → β)} {argument : RecordReader α} {f : α → β}
    {record : α} (hfunction : function.Accepts find f) (hargument : argument.Accepts find record) :
    (function <*> argument).Accepts find (f record) where
  fault?_eq_none field hfield := by
    rcases List.mem_append.mp hfield with hfield | hfield
    · exact hfunction.fault?_eq_none field hfield
    · exact hargument.fault?_eq_none field hfield
  build_eq absent := by
    change (function.build find absent >>= fun f => argument.build find absent >>= fun record =>
      .ok (f record)) = .ok (f record)
    rw [hfunction.build_eq, Except.ok_bind, hargument.build_eq, Except.ok_bind]

/-- Members with distinct names that no field refuses pass the check, in whatever order they
stand. -/
theorem checkMembers_eq_ok {fields : List FieldShape} {seen : List String}
    {members : List (String × Json)} (hnodup : (members.map Prod.fst).Nodup)
    (hseen : ∀ name ∈ seen, name ∉ members.map Prod.fst)
    (h : ∀ field ∈ fields, ∀ member ∈ members, field.name = member.1 →
      field.fault? member.2 = none) : checkMembers fields seen members = .ok () := by
  -- A name that has been met only adds to those that do not come again.
  induction members generalizing seen with
  | nil => rfl
  | cons member rest ih =>
    obtain ⟨name, value⟩ := member
    obtain ⟨hname, hrest⟩ := List.nodup_cons.mp hnodup
    have hothers : ∀ field ∈ fields, ∀ other ∈ rest, field.name = other.1 →
        field.fault? other.2 = none :=
      fun field hfield other hother => h field hfield other (List.mem_cons_of_mem _ hother)
    rw [checkMembers]
    cases hfound : fields.find? (·.name == name) with
    | none =>
      apply ih hrest _ hothers
      intro other hother hmem
      exact hseen other hother (List.mem_cons_of_mem _ hmem)
    | some field =>
      have hfault : field.fault? value = none :=
        h field (List.mem_of_find?_eq_some hfound) _ List.mem_cons_self
          (by simpa using List.find?_some hfound)
      have hunseen : seen.contains name = false := by
        simpa using fun hmem => hseen name hmem List.mem_cons_self
      simp only [hunseen, hfault, Bool.false_eq_true, if_false]
      apply ih hrest _ hothers
      intro other hother hmem
      rcases List.mem_cons.mp hother with rfl | hother
      · exact hname hmem
      · exact hseen other hother (List.mem_cons_of_mem _ hmem)

/-- A member with a name of its own is found under it. -/
theorem lookup_of_mem {members : List (String × Json)} (hnodup : (members.map Prod.fst).Nodup)
    {member : String × Json} (h : member ∈ members) : members.lookup member.1 = some member.2 := by
  induction members with
  | nil => contradiction
  | cons first rest ih =>
    obtain ⟨hfirst, hrest⟩ := List.nodup_cons.mp hnodup
    rcases List.mem_cons.mp h with rfl | h
    · exact List.lookup_cons_self
    · have hne : member.1 ≠ first.1 := by
        intro heq
        exact hfirst (heq ▸ List.mem_map_of_mem h)
      rw [List.lookup_cons, beq_false_of_ne hne]
      exact ih hrest h

/-- A record is read from members with distinct names whose values are its own. -/
theorem Accepts.ofMembers_eq {reader : RecordReader α} {members : List (String × Json)} {record : α}
    (h : reader.Accepts (members.lookup ·) record) (hnodup : (members.map Prod.fst).Nodup) :
    reader.ofMembers members = .ok record := by
  have hcheck : checkMembers reader.fields [] members = .ok () := by
    apply checkMembers_eq_ok hnodup
    · simp
    · intro field hfield member hmember hname
      exact h.fault?_eq_none field hfield member.2 (hname ▸ lookup_of_mem hnodup hmember)
  rw [ofMembers, hcheck, Except.ok_bind, h.build_eq]

/-- A record is read from an object with distinct names whose values are its own. -/
theorem Accepts.ofJson_eq {reader : RecordReader α} {called : String} {json : Json} {record : α}
    (h : reader.Accepts (json.member? ·) record) (hrecord : json.IsRecord) :
    reader.ofJson called json = .ok record := by
  obtain ⟨members, rfl, hnodup⟩ := hrecord
  exact h.ofMembers_eq hnodup

end RecordReader

end OfflineSigner
