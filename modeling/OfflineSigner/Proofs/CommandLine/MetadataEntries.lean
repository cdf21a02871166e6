import OfflineSigner.Proofs.CommandLine.RepeatedOption
import OfflineSigner.Proofs.CommandLine.Signing
import OfflineSigner.Proofs.Data.Dictionary

/-!
# Metadata entries as options

An argument for metadata is a key and a value with an equals sign between them, the first one if
there are several. The arguments of a command make up the metadata of its request: under each key
the last argument counts, except under the keys of auxiliary data, where the options for this data
count when they are given. Two commands take such arguments, and everything else that they read does
not depend on them.
-/

namespace OfflineSigner

namespace CommandLine

open OfflineSigner.Except

/-! ## Keys and values -/

/-- The text before the first equals sign and the text behind it. -/
def pairOf (text : String) : String × String :=
  (String.ofList (text.toList.takeWhile (· != '=')),
    String.ofList (text.toList.dropWhile (· != '=')).tail)

/-- What begins at the first equals sign begins with it. -/
theorem dropWhile_eq_cons {chars : List Char} (h : '=' ∈ chars) :
    chars.dropWhile (· != '=') = '=' :: (chars.dropWhile (· != '=')).tail := by
  induction chars with
  | nil => contradiction
  | cons first rest ih =>
    by_cases hfirst : first = '='
    · rw [List.dropWhile_cons_of_neg (by simpa using hfirst), hfirst, List.tail_cons]
    · rw [List.dropWhile_cons_of_pos (by simpa using hfirst)]
      exact ih (List.mem_of_ne_of_mem (Ne.symm hfirst) h)

/-- Where there is no equals sign, nothing begins at the first one. -/
theorem dropWhile_eq_nil {chars : List Char} (h : '=' ∉ chars) :
    chars.dropWhile (· != '=') = [] := by
  apply List.dropWhile_eq_nil_iff.mpr
  intro c hc
  exact bne_iff_ne.mpr (ne_of_mem_of_not_mem hc h)

/-- A text with an equals sign is read as its pair, and any other text is refused. -/
theorem readPair_eq (text : String) : readPair text =
    if '=' ∈ text.toList then .ok (pairOf text)
    else .error (.invalid s!"expected key=value, got `{text}`") := by
  split
  · next h =>
    rw [readPair, dropWhile_eq_cons h]
    rfl
  · next h => rw [readPair, dropWhile_eq_nil h]

/-- A text with an equals sign is made up of its pair. -/
theorem append_pairOf {text : String} (h : '=' ∈ text.toList) :
    (pairOf text).1 ++ "=" ++ (pairOf text).2 = text := by
  apply String.toList_inj.mp
  have hequals : "=".toList = ['='] := rfl
  rw [String.toList_append, String.toList_append, hequals, pairOf, String.toList_ofList,
    String.toList_ofList, List.append_assoc, List.singleton_append, ← dropWhile_eq_cons h,
    List.takeWhile_append_dropWhile]

/-- There is no equals sign in the key. -/
theorem notMem_pairOf (text : String) : '=' ∉ (pairOf text).1.toList := by
  intro h
  rw [pairOf, String.toList_ofList] at h
  simpa using List.mem_takeWhile_imp h

/-- The first equals sign stands between key and value; further ones belong to the value. -/
theorem pairOf_append {key : String} (h : '=' ∉ key.toList) (value : String) :
    pairOf (key ++ "=" ++ value) = (key, value) := by
  have hkey : ∀ c ∈ key.toList, (c != '=') = true := fun c hc =>
    bne_iff_ne.mpr (ne_of_mem_of_not_mem hc h)
  have hequals : "=".toList = ['='] := rfl
  rw [pairOf, String.toList_append, String.toList_append, hequals, List.append_assoc,
    List.takeWhile_append_of_pos hkey, List.dropWhile_append_of_pos hkey]
  simp

/-! ## The metadata of a request -/

/-- An entry that is added is found. -/
theorem get?_addEntry_self (metadata : Metadata) (key value : String) :
    (addEntry metadata key (some value)).get? key = some value :=
  metadata.get?_insert_self key value

/-- Under other keys, and under its own if there is no entry to add, the same is found as before. -/
theorem get?_addEntry_of_free (metadata : Metadata) {key other : String} {value : Option String}
    (h : other = key → value = none) :
    (addEntry metadata key value).get? other = metadata.get? other := by
  cases value with
  | none => rfl
  | some value => exact metadata.get?_insert_of_ne (fun hkey => by simpa using h hkey) value

/-- How metadata follows from the texts of arguments and from the two options that count before
them. -/
structure AssembledFrom (metadata : Metadata) (texts : List String)
    (otherAsset components : Option String) : Prop where
  /-- The other asset that is given is the one found under its key. -/
  otherAsset_given : ∀ id, otherAsset = some id → metadata.get? otherAssetKey = some id
  /-- The components that are given are those found under their key. -/
  components_given : ∀ text, components = some text → metadata.get? componentsKey = some text
  /-- Under any other key a value is found exactly when it stands behind the first equals sign of an
  argument that has the key before this sign, and no later argument has this key. -/
  argument_iff : ∀ key, (key = otherAssetKey → otherAsset = none) →
    (key = componentsKey → components = none) → ∀ value, metadata.get? key = some value ↔
      ∃ before after, texts = before ++ (key ++ "=" ++ value) :: after ∧ '=' ∉ key.toList ∧
        ∀ text ∈ after, ∀ later, text ≠ key ++ "=" ++ later

/-- What is found among the pairs of some texts stands in the last text with the key. -/
theorem get?_ofList_pairs {texts : List String} (htexts : ∀ text ∈ texts, '=' ∈ text.toList)
    (key value : String) :
    (Dictionary.ofList (texts.map pairOf)).get? key = some value ↔
      ∃ before after, texts = before ++ (key ++ "=" ++ value) :: after ∧ '=' ∉ key.toList ∧
        ∀ text ∈ after, ∀ later, text ≠ key ++ "=" ++ later := by
  rw [Dictionary.get?_ofList_eq_some_iff]
  constructor
  · rintro ⟨before, after, hpairs, hlater⟩
    obtain ⟨textsBefore, rest, rfl, -, hrest⟩ := List.map_eq_append_iff.mp hpairs
    obtain ⟨text, textsAfter, rfl, htext, rfl⟩ := List.map_eq_cons_iff.mp hrest
    have hequals : '=' ∈ text.toList := htexts text (by simp)
    have hkey : '=' ∉ key.toList := by simpa [htext] using notMem_pairOf text
    refine ⟨textsBefore, textsAfter, ?_, hkey, ?_⟩
    · rw [← append_pairOf hequals, htext]
    · rintro _ hmem later rfl
      exact hlater _ (List.mem_map_of_mem hmem) (by rw [pairOf_append hkey])
  · rintro ⟨before, after, rfl, hkey, hlater⟩
    refine ⟨before.map pairOf, after.map pairOf, by simp [pairOf_append hkey], ?_⟩
    intro entry hentry hsame
    obtain ⟨text, htext, rfl⟩ := List.mem_map.mp hentry
    refine hlater text htext (pairOf text).2 ?_
    rw [← hsame, append_pairOf (htexts text (by simp [htext]))]

/-- Under a key that no option has taken the same is found as among the pairs of the arguments. -/
theorem AssembledFrom.get?_eq {metadata : Metadata} {texts : List String}
    {otherAsset components : Option String} (h : AssembledFrom metadata texts otherAsset components)
    (htexts : ∀ text ∈ texts, '=' ∈ text.toList) {key : String}
    (hother : key = otherAssetKey → otherAsset = none)
    (hcomponents : key = componentsKey → components = none) :
    metadata.get? key = (Dictionary.ofList (texts.map pairOf)).get? key := by
  apply Option.ext
  intro value
  rw [h.argument_iff key hother hcomponents value, get?_ofList_pairs htexts]

/-- The pairs of the arguments with the two options behind them are metadata that follow from
arguments and options. -/
theorem assembledFrom {texts : List String} (htexts : ∀ text ∈ texts, '=' ∈ text.toList)
    (otherAsset components : Option String) :
    AssembledFrom (addEntry (addEntry (.ofList (texts.map pairOf)) otherAssetKey otherAsset)
      componentsKey components) texts otherAsset components where
  otherAsset_given := by
    rintro id rfl
    rw [get?_addEntry_of_free _ (fun h => absurd h (by decide)), get?_addEntry_self]
  components_given := by
    rintro text rfl
    exact get?_addEntry_self _ _ _
  argument_iff := by
    intro key hother hcomponents value
    rw [get?_addEntry_of_free _ hcomponents, get?_addEntry_of_free _ hother]
    exact get?_ofList_pairs htexts key value

/-- Pairs under different keys make up the same metadata in every order. -/
theorem ofList_pairs_eq_of_perm {texts texts' : List String} (h : texts.Perm texts')
    (hkeys : (texts.map fun text => (pairOf text).1).Nodup) :
    Dictionary.ofList (texts.map pairOf) = .ofList (texts'.map pairOf) := by
  apply Dictionary.ofList_eq_of_perm (h.map pairOf)
  rwa [List.map_map]

/-! ## Commands about an asset -/

/-- The request of a command about an asset, with the options that are about signing. -/
def Command.assetRequest? : Command → Option (SigningOptions × AssetRequest)
  | createAsset signing asset => some (signing, asset.request .create)
  | assetAction signing asset action owner otherAsset components =>
    some (signing, { asset.request action with
      owner
      metadata := addEntry (addEntry (asset.request action).metadata otherAssetKey otherAsset)
        componentsKey components })
  | _ => none

/-- A command about an asset signs its request. -/
theorem Command.run_eq_signAsset {σ : Type} (source : Entropy σ) (state : σ) (settings : Settings)
    {command : Command} {signing : SigningOptions} {request : AssetRequest}
    (h : command.assetRequest? = some (signing, request)) :
    command.run source state settings = signAsset settings signing request := by
  cases command with
  | createAsset | assetAction =>
    cases h
    rfl
  | _ => contradiction

/-- The same command with other entries of metadata. -/
def Command.withMetadata (entries : List (String × String)) : Command → Command
  | createAsset signing asset => .createAsset signing { asset with metadata := entries }
  | assetAction signing asset action owner otherAsset components =>
    .assetAction signing { asset with metadata := entries } action owner otherAsset components
  | command => command

/-- Entries that make up the same metadata make no difference to what a command prints. -/
theorem Command.run_withMetadata {σ : Type} (source : Entropy σ) (state : σ) (settings : Settings)
    (command : Command) {entries entries' : List (String × String)}
    (h : Dictionary.ofList entries = .ofList entries') :
    (command.withMetadata entries).run source state settings =
      (command.withMetadata entries').run source state settings := by
  cases command with
  | createAsset | assetAction => simp only [withMetadata, run, AssetOptions.request, h]
  | _ => rfl

/-- The options of the command that creates an asset. -/
def createReader : OptionReader Command :=
  Command.createAsset <$> signingOptions <*> assetOptions

/-- The options of the command for any action on an asset. -/
def actionReader : OptionReader Command :=
  Command.assetAction <$> signingOptions <*> assetOptions
    <*> .required "action" (readName AssetAction.ofName)
    <*> .optional "owner" readText
    <*> .optional "other-asset-id" readText
    <*> .optional "components" readText

/-- The commands about an asset with their options. -/
def assetCommands : List (String × OptionReader Command) :=
  [("create-asset", createReader), ("asset-action", actionReader)]

/-- The command for any action is one of them. -/
theorem actionReader_mem_assetCommands : ("asset-action", actionReader) ∈ assetCommands :=
  List.mem_cons_of_mem _ List.mem_cons_self

/-- They are among the subcommands. -/
theorem mem_subcommands {name : String} {reader : OptionReader Command}
    (h : (name, reader) ∈ assetCommands) : (name, reader) ∈ subcommands := by
  simp only [assetCommands, List.mem_cons, List.not_mem_nil, or_false] at h
  rcases h with h | h <;> rw [h] <;> simp [subcommands, createReader, actionReader]

variable {given : Given} {name : String} {reader : OptionReader Command}

/-- One of two readers belongs to a command about an asset. -/
theorem reader_eq_of_mem_assetCommands (h : (name, reader) ∈ assetCommands) :
    reader = createReader ∨ reader = actionReader := by
  simp only [assetCommands, List.mem_cons, List.not_mem_nil, or_false, Prod.mk.injEq] at h
  exact h.imp And.right And.right

/-- The first text without an equals sign. -/
def firstUnreadable? (texts : List String) : Option String :=
  texts.find? fun text => !text.toList.contains '='

/-- There is none exactly when every text has an equals sign. -/
theorem firstUnreadable?_eq_none_iff {texts : List String} :
    firstUnreadable? texts = none ↔ ∀ text ∈ texts, '=' ∈ text.toList := by
  simp [firstUnreadable?]

/-- Arguments with an equals sign are read as their pairs. -/
theorem mapM_readPair {texts : List String} (h : ∀ text ∈ texts, '=' ∈ text.toList) :
    texts.mapM (OptionReader.valueOf "meta" readPair) = .ok (texts.map pairOf) := by
  induction texts with
  | nil => rfl
  | cons first rest ih =>
    obtain ⟨hfirst, hrest⟩ := List.forall_mem_cons.mp h
    have hread : OptionReader.valueOf "meta" readPair first = .ok (pairOf first) := by
      rw [OptionReader.valueOf, readPair_eq, if_pos hfirst]
      rfl
    rw [List.mapM_cons, hread, ih hrest]
    rfl

/-- The options about signing do not depend on metadata. -/
theorem signingOptions_ignores : signingOptions.Ignores "meta" := by
  have hseed : seedOption.Ignores "meta" := .orVariable (.required (by decide)) _
  refine .seq (.seq (.seq (.seq (.seq (.seq (.map _ hseed) ?_) ?_) ?_) ?_) ?_) ?_
  · exact .allowingNegative (.optional (by decide))
  · exact .allowingNegative (.required (by decide))
  · exact .optional (by decide)
  · exact .optional (by decide)
  · exact .optional (by decide)
  · exact .flag (by decide)

/-- Apart from the metadata the options about an asset do not depend on it. -/
theorem build_assetOptions (h : ∀ text ∈ valuesOf "meta" given, '=' ∈ text.toList) :
    assetOptions.build given = (assetOptions.build (others "meta" given)).map fun asset =>
      { asset with metadata := (valuesOf "meta" given).map pairOf } := by
  have hid : (OptionReader.required "asset-id" readText).Ignores "meta" := .required (by decide)
  have hdensity : (OptionReader.withDefault "density" (readName Density.ofName)
      .ethereal).Ignores "meta" := .withDefault (by decide) _
  apply OptionReader.Ignores.build_seq (.withDefault (by decide) _)
  simp only [OptionReader.build_seq, OptionReader.build_map, OptionReader.build_many, hid given,
    hdensity given, mapM_readPair h, valuesOf_others_self, List.mapM_nil]
  cases (OptionReader.required "asset-id" readText).build given with
  | error fault => rfl
  | ok id =>
    cases (OptionReader.withDefault "density" (readName Density.ofName) .ethereal).build given
    all_goals rfl

/-- Nor do commands about an asset. -/
theorem build_of_mem_assetCommands (hname : (name, reader) ∈ assetCommands)
    (h : ∀ text ∈ valuesOf "meta" given, '=' ∈ text.toList) :
    reader.build given = (reader.build (others "meta" given)).map
      (Command.withMetadata ((valuesOf "meta" given).map pairOf)) := by
  have hsigning := signingOptions_ignores given
  have hasset := build_assetOptions h
  rcases reader_eq_of_mem_assetCommands hname with rfl | rfl
  · simp only [createReader, OptionReader.build_seq, OptionReader.build_map, hsigning, hasset]
    cases signingOptions.build given with
    | error fault => rfl
    | ok signing => cases assetOptions.build (others "meta" given) <;> rfl
  · -- The four options behind those of the asset do not depend on metadata.
    apply OptionReader.Ignores.build_seq (.optional (by decide))
    apply OptionReader.Ignores.build_seq (.optional (by decide))
    apply OptionReader.Ignores.build_seq (.optional (by decide))
    apply OptionReader.Ignores.build_seq (.required (by decide))
    simp only [OptionReader.build_seq, OptionReader.build_map, hsigning, hasset]
    cases signingOptions.build given with
    | error fault => rfl
    | ok signing => cases assetOptions.build (others "meta" given) <;> rfl

/-- A value that need not be given and is taken as it is. -/
theorem build_optional_readText (name : String) (given : Given) :
    (OptionReader.optional name readText).build given = .ok (given.lookup name) := by
  simp only [OptionReader.optional]
  cases given.lookup name <;> rfl

/-- The command that creates an asset has a request whose metadata are those of the arguments. -/
theorem assetRequest?_of_build_createReader {command : Command}
    (h : ∀ text ∈ valuesOf "meta" given, '=' ∈ text.toList)
    (hbuild : createReader.build given = .ok command) :
    ∃ signing request, command.assetRequest? = some (signing, request) ∧
      request.metadata = .ofList ((valuesOf "meta" given).map pairOf) := by
  obtain ⟨f, asset, hf, hasset, rfl⟩ := OptionReader.build_seq_eq_ok_iff.mp hbuild
  obtain ⟨signing, -, rfl⟩ := map_eq_ok_iff.mp hf
  rw [build_assetOptions h] at hasset
  obtain ⟨options, -, rfl⟩ := map_eq_ok_iff.mp hasset
  exact ⟨signing, _, rfl, rfl⟩

/-- The command for any action has a request whose metadata are those of the arguments and of the
two options that count before them. -/
theorem assetRequest?_of_build_actionReader {command : Command}
    (h : ∀ text ∈ valuesOf "meta" given, '=' ∈ text.toList)
    (hbuild : actionReader.build given = .ok command) :
    ∃ signing request, command.assetRequest? = some (signing, request) ∧
      request.metadata = addEntry
        (addEntry (.ofList ((valuesOf "meta" given).map pairOf)) otherAssetKey
          (given.lookup "other-asset-id"))
        componentsKey (given.lookup "components") := by
  simp only [actionReader, OptionReader.build_seq_eq_ok_iff] at hbuild
  obtain ⟨_, components, ⟨_, otherAsset, ⟨_, owner, ⟨_, action, ⟨_, asset, hsigning, hasset, rfl⟩,
    -, rfl⟩, -, rfl⟩, hother, rfl⟩, hcomponents, rfl⟩ := hbuild
  obtain ⟨signing, -, rfl⟩ := map_eq_ok_iff.mp hsigning
  rw [build_assetOptions h] at hasset
  obtain ⟨options, -, rfl⟩ := map_eq_ok_iff.mp hasset
  rw [build_optional_readText] at hother hcomponents
  cases hother
  cases hcomponents
  exact ⟨signing, _, rfl, rfl⟩

/-- Only the commands about an asset have a request about one. -/
theorem mem_assetCommands_of_build {command : Command}
    (hname : (name, reader) ∈ subcommands)
    (hbuild : reader.build given = .ok command) (hrequest : command.assetRequest? ≠ none) :
    (name, reader) ∈ assetCommands := by
  simp only [subcommands, List.mem_cons, List.not_mem_nil, or_false, Prod.mk.injEq] at hname
  rcases hname with ⟨rfl, rfl⟩ | ⟨rfl, rfl⟩ | ⟨rfl, rfl⟩ | ⟨rfl, rfl⟩ | ⟨rfl, rfl⟩
  · obtain rfl : Command.keygen = command := Except.ok.inj hbuild
    contradiction
  · obtain ⟨seed, -, rfl⟩ := map_eq_ok_iff.mp hbuild
    contradiction
  · simp only [OptionReader.build_seq_eq_ok_iff] at hbuild
    obtain ⟨_, amount, ⟨_, recipient, hsigning, -, rfl⟩, -, rfl⟩ := hbuild
    obtain ⟨signing, -, rfl⟩ := map_eq_ok_iff.mp hsigning
    contradiction
  · exact List.mem_cons_self
  · exact List.mem_cons_of_mem _ List.mem_cons_self

/-! ## The option for metadata -/

/-- The option for metadata. -/
def metaShape : OptionShape :=
  { OptionReader.shapeOf "meta" readPair with repeatable := true }

/-- The value of a metadata argument fits exactly when it has an equals sign. -/
theorem fault?_metaShape (text : String) :
    metaShape.fault? text = none ↔ '=' ∈ text.toList := by
  by_cases h : '=' ∈ text.toList <;> simp [metaShape, OptionReader.shapeOf, readPair_eq, h]

/-- Both commands have the option for metadata. -/
theorem find?_meta (hname : (name, reader) ∈ assetCommands) :
    reader.shapes.find? (·.name == "meta") = some metaShape := by
  rcases reader_eq_of_mem_assetCommands hname with rfl | rfl <;> rfl

/-- A variable stands in for the seed and for nothing else. -/
theorem fallback?_eq_none (hname : (name, reader) ∈ assetCommands) {shape : OptionShape}
    (hne : shape.name ≠ "seed") (hmem : shape ∈ reader.shapes) : shape.fallback? = none := by
  have hall : reader.shapes.all
      (fun shape => shape.name == "seed" || shape.fallback?.isNone) = true := by
    rcases reader_eq_of_mem_assetCommands hname with rfl | rfl <;> rfl
  have hshape := List.all_eq_true.mp hall shape hmem
  simpa [hne] using hshape

/-- A word that gives a text as metadata. -/
theorem formOf_metaWord (text : String) :
    formOf ("--meta=" ++ text) = .named "meta" (some text) := by
  have hchars : ("--meta=" ++ text).toList = '-' :: '-' :: ("meta".toList ++ '=' :: text.toList) :=
    String.toList_append
  rw [formOf, hchars]
  change Form.named (String.ofList "meta".toList) (some (String.ofList text.toList)) = _
  rw [String.ofList_toList, String.ofList_toList]

/-- The occurrences of the option that give some texts as metadata. -/
def metaOccurrences (texts : List String) : List Occurrence :=
  texts.map (⟨metaShape, ·⟩)

/-- They are all occurrences of this option. -/
@[simp] theorem filter_metaOccurrences (texts : List String) :
    (metaOccurrences texts).filter (·.shape.name != "meta") = [] := by
  induction texts with
  | nil => rfl
  | cons text rest ih => exact ih

/-- Any texts can be given as metadata in front of other options. -/
theorem spells_metaWords (hname : (name, reader) ∈ assetCommands) (texts : List String)
    {words : List String} {occurrences : List Occurrence}
    (h : reader.level.Spells words occurrences) :
    reader.level.Spells (texts.map ("--meta=" ++ ·) ++ words)
      (metaOccurrences texts ++ occurrences) := by
  induction texts with
  | nil => exact h
  | cons text rest ih => exact .attached (find?_meta hname) rfl (formOf_metaWord text) ih

/-- These give the texts. -/
theorem valuesOf_metaOccurrences (texts : List String) :
    valuesOf "meta" ((metaOccurrences texts).map Occurrence.entry) = texts := by
  induction texts with
  | nil => rfl
  | cons text rest ih => exact congrArg (text :: ·) ih

end CommandLine

end OfflineSigner
