import OfflineSigner.Proofs.CommandLine.MetadataEntries

/-!
# Metadata from the command line

A command line about an asset may give metadata at any place among its other options. Whether the
line is accepted does not depend on metadata that can be read, and the metadata of the request
follow from the texts that are given and from the two options that count before them. So the order
of texts with different keys makes no difference to what is printed. A text without an equals sign
is refused.
-/

namespace OfflineSigner

namespace CommandLine

open OfflineSigner.Except

/-! ## Command lines about an asset -/

/-- A command line about an asset: words that spell options of the program, the name of a command
about an asset, and words that spell options of this command. -/
structure AssetLine where
  front : List String
  leading : List Occurrence
  name : String
  reader : OptionReader Command
  rest : List String
  occurrences : List Occurrence
  /-- The words before the command spell options of the program. -/
  spells_front : firstLevel.Spells front leading
  /-- The command is one about an asset. -/
  mem_assetCommands : (name, reader) ∈ assetCommands
  /-- The words behind the name spell options of the command. -/
  spells_rest : reader.level.Spells rest occurrences

namespace AssetLine

variable {environment : String → Option String}

/-- All words of the line. -/
def words (line : AssetLine) : List String :=
  line.front ++ line.name :: line.rest

/-- The options of the command with their values, in the order in which they are given. -/
def options (line : AssetLine) : Given :=
  line.occurrences.map Occurrence.entry

/-- The texts given as metadata, in order. -/
def metaTexts (line : AssetLine) : List String :=
  valuesOf "meta" line.options

/-- The options of the command but for metadata. -/
def besides (line : AssetLine) : List Occurrence :=
  line.occurrences.filter (·.shape.name != "meta")

/-- Two lines are the same but for where and which metadata is given. -/
structure SameBesidesMeta (line other : AssetLine) : Prop where
  front_eq : other.front = line.front
  name_eq : other.name = line.name
  /-- The other options are the same in the same order. -/
  besides_eq : other.besides = line.besides

/-- Commands about an asset are read by their names. -/
theorem SameBesidesMeta.reader_eq {line other : AssetLine} (h : line.SameBesidesMeta other) :
    other.reader = line.reader := by
  have hline := (lookup_of_mem_subcommands (mem_subcommands line.mem_assetCommands)).1
  have hother := (lookup_of_mem_subcommands (mem_subcommands other.mem_assetCommands)).1
  rw [h.name_eq, hline] at hother
  exact (Option.some.inj hother).symm

/-- An option named so is the one for metadata. -/
theorem shape_eq_metaShape (line : AssetLine) {occurrence : Occurrence}
    (hmem : occurrence ∈ line.occurrences) (hname : occurrence.shape.name = "meta") :
    occurrence.shape = metaShape := by
  have hfind : line.reader.shapes.find? (·.name == occurrence.shape.name) = some occurrence.shape :=
    line.spells_rest.offers hmem
  rw [hname, find?_meta line.mem_assetCommands] at hfind
  exact (Option.some.inj hfind).symm

/-- The options but for metadata give none. -/
theorem valuesOf_besides (line : AssetLine) :
    valuesOf "meta" (line.besides.map Occurrence.entry) = [] := by
  have hothers : line.besides.map Occurrence.entry = others "meta" line.options := by
    rw [besides, others, options, List.filter_map]
    rfl
  rw [hothers, valuesOf_others_self]

/-- Whatever metadata a line gives, the same line can be written with any texts in their place. -/
theorem exists_metaTexts_eq (line : AssetLine) (texts : List String) :
    ∃ other, line.SameBesidesMeta other ∧ other.metaTexts = texts := by
  obtain ⟨rest, hrest⟩ := line.spells_rest.exists_filter (·.shape.name != "meta")
  refine ⟨{ line with
    rest := texts.map ("--meta=" ++ ·) ++ rest
    occurrences := metaOccurrences texts ++ line.besides
    spells_rest := spells_metaWords line.mem_assetCommands texts hrest }, ⟨rfl, rfl, ?_⟩, ?_⟩
  · simp [besides]
  · rw [metaTexts, options, List.map_append, valuesOf_append, valuesOf_metaOccurrences,
      valuesOf_besides, List.append_nil]

/-- The value of an option named so is a text given as metadata. -/
theorem mem_metaTexts {line : AssetLine} {occurrence : Occurrence}
    (hmem : occurrence ∈ line.occurrences) (hname : occurrence.shape.name = "meta") :
    occurrence.value ∈ line.metaTexts := by
  have hentry : occurrence.entry ∈ line.options.filter (·.1 == "meta") :=
    List.mem_filter.mpr ⟨List.mem_map_of_mem hmem, beq_iff_eq.mpr hname⟩
  exact List.mem_map_of_mem hentry

/-- A text given as metadata is the value of an option named so. -/
theorem exists_of_mem_metaTexts {line : AssetLine} {text : String} (h : text ∈ line.metaTexts) :
    ∃ occurrence ∈ line.occurrences, occurrence.shape = metaShape ∧ occurrence.value = text := by
  obtain ⟨entry, hentry, rfl⟩ := List.mem_map.mp h
  obtain ⟨hmem, hname⟩ := List.mem_filter.mp hentry
  obtain ⟨occurrence, hoccurrence, rfl⟩ := List.mem_map.mp hmem
  exact ⟨occurrence, hoccurrence, line.shape_eq_metaShape hoccurrence (beq_iff_eq.mp hname), rfl⟩

/-- Metadata that can be read only update what the other options amount to. -/
theorem read_eq (line : AssetLine) (environment : String → Option String)
    (htexts : ∀ text ∈ line.metaTexts, '=' ∈ text.toList) :
    line.reader.read environment line.occurrences =
      (line.reader.read environment line.besides).map
        (Command.withMetadata (line.metaTexts.map pairOf)) := by
  apply OptionReader.read_eq_map
  · intro occurrence hmem hname
    rw [line.shape_eq_metaShape hmem hname]
    exact ⟨rfl, (fault?_metaShape _).mpr (htexts _ (mem_metaTexts hmem hname))⟩
  · intro shape hmem hname
    exact fallback?_eq_none line.mem_assetCommands (by rw [hname]; decide) hmem
  · intro given hgiven
    have hsame : valuesOf "meta" given = line.metaTexts := hgiven
    rw [← hsame] at htexts ⊢
    exact build_of_mem_assetCommands line.mem_assetCommands htexts

/-- A value that is given to an option of the command, if one is. -/
def value? (line : AssetLine) (name : String) : Option String :=
  line.options.lookup name

/-- No value is given to an option that the command does not have. -/
theorem value?_eq_none {line : AssetLine} {name : String}
    (h : line.reader.shapes.find? (·.name == name) = none) : line.value? name = none := by
  apply List.lookup_eq_none_iff.mpr
  intro entry hentry
  obtain ⟨occurrence, hmem, rfl⟩ := List.mem_map.mp hentry
  apply bne_iff_ne.mpr
  rintro rfl
  cases h.symm.trans (line.spells_rest.offers hmem)

/-- If a line amounts to a command, its metadata can be read, and the command is made of the values
that are given to its options; only the seed may be given elsewhere. -/
theorem exists_build_of_read {line : AssetLine} {command : Command}
    (h : line.reader.read environment line.occurrences = .ok command) :
    (∀ text ∈ line.metaTexts, '=' ∈ text.toList) ∧
    ∃ given, line.reader.build given = .ok command ∧
      ∀ name, name ≠ "seed" → valuesOf name given = valuesOf name line.options := by
  obtain ⟨accepted, haccepted, hadded⟩ := bind_eq_ok_iff.mp h
  obtain ⟨given, hgiven, hbuild⟩ := bind_eq_ok_iff.mp hadded
  obtain ⟨hfits, rfl⟩ := eq_append_of_acceptAll haccepted
  constructor
  · intro text htext
    obtain ⟨occurrence, hmem, hshape, rfl⟩ := exists_of_mem_metaTexts htext
    exact (fault?_metaShape _).mp (hshape ▸ hfits occurrence hmem)
  · refine ⟨given, hbuild, ?_⟩
    intro name hne
    apply valuesOf_of_addVariables _ hgiven
    intro shape hmem hname
    exact fallback?_eq_none line.mem_assetCommands (hname ▸ hne) hmem

/-- Where options have the same values, a value that is looked up is that of the line. -/
theorem lookup_eq_value? {line : AssetLine} {given : Given} {name : String}
    (h : valuesOf name given = valuesOf name line.options) :
    given.lookup name = line.value? name := by
  rw [value?, lookup_eq_head?, lookup_eq_head?, h]

/-- The request of a line that amounts to a command has metadata that follow from the arguments and
the two options that count before them. -/
theorem assembledFrom_of_read {line : AssetLine} {command : Command}
    (h : line.reader.read environment line.occurrences = .ok command) :
    (∀ text ∈ line.metaTexts, '=' ∈ text.toList) ∧
    ∃ signing request, command.assetRequest? = some (signing, request) ∧
      AssembledFrom request.metadata line.metaTexts (line.value? "other-asset-id")
        (line.value? "components") := by
  obtain ⟨htexts, given, hbuild, hvalues⟩ := exists_build_of_read h
  have hmeta : valuesOf "meta" given = line.metaTexts := hvalues "meta" (by decide)
  refine ⟨htexts, ?_⟩
  rcases reader_eq_of_mem_assetCommands line.mem_assetCommands with hreader | hreader
  · rw [hreader] at hbuild
    obtain ⟨signing, request, hrequest, hmetadata⟩ :=
      assetRequest?_of_build_createReader (hmeta ▸ htexts) hbuild
    have hother : line.value? "other-asset-id" = none := value?_eq_none (by rw [hreader]; rfl)
    have hcomponents : line.value? "components" = none := value?_eq_none (by rw [hreader]; rfl)
    refine ⟨signing, request, hrequest, ?_⟩
    rw [hmetadata, hmeta, hother, hcomponents]
    exact assembledFrom htexts none none
  · rw [hreader] at hbuild
    obtain ⟨signing, request, hrequest, hmetadata⟩ :=
      assetRequest?_of_build_actionReader (hmeta ▸ htexts) hbuild
    refine ⟨signing, request, hrequest, ?_⟩
    rw [hmetadata, hmeta, lookup_eq_value? (hvalues _ (by decide)),
      lookup_eq_value? (hvalues _ (by decide))]
    exact assembledFrom htexts _ _

/-- If the other options amount to a command, the first text without an equals sign is refused. -/
theorem read_eq_error {line : AssetLine} {command : Command} {text : String}
    (h : line.reader.read environment line.besides = .ok command)
    (hfirst : firstUnreadable? line.metaTexts = some text) :
    line.reader.read environment line.occurrences =
      .error (.invalidValue "meta" s!"expected key=value, got `{text}`") := by
  obtain ⟨accepted, haccepted, -⟩ := bind_eq_ok_iff.mp h
  have hnone : '=' ∉ text.toList := by simpa using List.find?_some hfirst
  have hfits : (fun value => (metaShape.fault? value).isSome) =
      fun text => !text.toList.contains '=' := by
    funext value
    rw [Bool.eq_iff_iff, Option.isSome_iff_ne_none, ne_eq, fault?_metaShape]
    simp
  have hfault : metaShape.fault? text = some (.invalid s!"expected key=value, got `{text}`") := by
    simp only [metaShape, OptionReader.shapeOf, readPair_eq, if_neg hnone]
  have hrefused : acceptAll line.occurrences [] = .error _ :=
    acceptAll_eq_error (rfl : metaShape.repeatable = true) (fun _ => line.shape_eq_metaShape)
      haccepted (hfits ▸ hfirst) hfault
  rw [OptionReader.read, hrefused]
  rfl

/-- A line with a text without an equals sign amounts to no command. -/
theorem exists_read_eq_error (line : AssetLine) (environment : String → Option String)
    {text : String} (hfirst : firstUnreadable? line.metaTexts = some text) :
    ∃ fault, line.reader.read environment line.occurrences = .error fault := by
  cases hread : line.reader.read environment line.occurrences with
  | error fault => exact ⟨fault, rfl⟩
  | ok command =>
    have htexts := firstUnreadable?_eq_none_iff.mpr (assembledFrom_of_read hread).1
    cases htexts.symm.trans hfirst

/-- What lines that are the same but for metadata ask for differs only in what is made of the
options of the command. -/
theorem exists_parse_words_eq (line : AssetLine) (environment : String → Option String) :
    ∃ (first : Except ArgumentFault Unit)
      (last : Except ArgumentFault (Option String × Option String)),
      ∀ other, line.SameBesidesMeta other → parse environment other.words =
        first >>= fun _ => line.reader.read environment other.occurrences >>= fun command =>
          last >>= fun options => .ok (.run ⟨options.1, options.2, command⟩) := by
  obtain ⟨first, last, hparse⟩ := exists_parse_eq line.spells_front
    (mem_subcommands line.mem_assetCommands) environment
  refine ⟨first, last, ?_⟩
  intro other hsame
  rw [words, hsame.front_eq, hsame.name_eq]
  exact hparse other.rest other.occurrences (hsame.reader_eq ▸ other.spells_rest)

/-- A line is the same as itself. -/
theorem SameBesidesMeta.refl (line : AssetLine) : line.SameBesidesMeta line :=
  ⟨rfl, rfl, rfl⟩

/-- An accepted line amounts to the command that is run. -/
theorem read_of_parse {line : AssetLine} {invocation : Invocation}
    (h : parse environment line.words = .ok (.run invocation)) :
    line.reader.read environment line.occurrences = .ok invocation.command := by
  obtain ⟨first, last, hparse⟩ := line.exists_parse_words_eq environment
  rw [hparse line (.refl line)] at h
  obtain ⟨_, -, hcommand⟩ := bind_eq_ok_iff.mp h
  obtain ⟨command, hread, hlast⟩ := bind_eq_ok_iff.mp hcommand
  obtain ⟨options, -, hrun⟩ := bind_eq_ok_iff.mp hlast
  cases hrun
  exact hread

/-- If another line amounts to a command, so do the options but for metadata. -/
theorem SameBesidesMeta.exists_read_besides {line other : AssetLine} {command : Command}
    (h : line.SameBesidesMeta other)
    (hread : line.reader.read environment other.occurrences = .ok command) :
    ∃ base, line.reader.read environment line.besides = .ok base := by
  rw [← h.reader_eq] at hread
  have htexts := (assembledFrom_of_read hread).1
  rw [other.read_eq environment htexts, h.reader_eq, h.besides_eq] at hread
  obtain ⟨base, hbase, -⟩ := map_eq_ok_iff.mp hread
  exact ⟨base, hbase⟩

/-- Lines that are the same but for metadata that can be read ask for the same but for the metadata,
or are refused alike. -/
theorem SameBesidesMeta.exists_parse_eq {line other : AssetLine} (h : line.SameBesidesMeta other)
    (environment : String → Option String) (hline : firstUnreadable? line.metaTexts = none)
    (hother : firstUnreadable? other.metaTexts = none) :
    ∃ base : Except ArgumentFault Invocation,
      (parse environment line.words = base.map fun invocation => .run { invocation with
        command := invocation.command.withMetadata (line.metaTexts.map pairOf) }) ∧
      parse environment other.words = base.map fun invocation => .run { invocation with
        command := invocation.command.withMetadata (other.metaTexts.map pairOf) } := by
  obtain ⟨first, last, hparse⟩ := line.exists_parse_words_eq environment
  have hreadOther := other.read_eq environment (firstUnreadable?_eq_none_iff.mp hother)
  rw [h.reader_eq, h.besides_eq] at hreadOther
  rw [hparse line (.refl line), hparse other h, hreadOther,
    line.read_eq environment (firstUnreadable?_eq_none_iff.mp hline)]
  refine ⟨first >>= fun _ => line.reader.read environment line.besides >>= fun command =>
    last.map fun options => ⟨options.1, options.2, command⟩, ?_⟩
  cases first with
  | error fault => exact ⟨rfl, rfl⟩
  | ok passed =>
    cases line.reader.read environment line.besides with
    | error fault => exact ⟨rfl, rfl⟩
    | ok command => cases last <;> exact ⟨rfl, rfl⟩

/-- Every command line that is accepted and asks for a request about an asset is a line. -/
theorem exists_of_parse {words : List String} {invocation : Invocation}
    (h : parse environment words = .ok (.run invocation))
    (hrequest : invocation.command.assetRequest? ≠ none) :
    ∃ line : AssetLine, line.words = words := by
  obtain ⟨front, leading, name, reader, rest, occurrences, rfl, hfront, hname, hrest, hread⟩ :=
    exists_spells_of_parse h
  obtain ⟨accepted, -, hadded⟩ := bind_eq_ok_iff.mp hread
  obtain ⟨given, -, hbuild⟩ := bind_eq_ok_iff.mp hadded
  have hasset := mem_assetCommands_of_build hname hbuild hrequest
  exact ⟨⟨front, leading, name, reader, rest, occurrences, hfront, hasset, hrest⟩, rfl⟩

/-- A line is accepted if something is run for its words. -/
def Accepted (line : AssetLine) (environment : String → Option String) : Prop :=
  ∃ invocation, parse environment line.words = .ok (.run invocation)

/-- A line is accepted exactly when a command is made of its options, and the options before the
command are in order. -/
theorem accepted_iff {line : AssetLine} {base : Except ArgumentFault Invocation}
    {change : Invocation → Invocation}
    (h : parse environment line.words = base.map fun invocation => .run (change invocation)) :
    line.Accepted environment ↔ ∃ invocation, base = .ok invocation := by
  rw [Accepted, h]
  constructor
  · rintro ⟨invocation, hinvocation⟩
    obtain ⟨unchanged, hbase, -⟩ := map_eq_ok_iff.mp hinvocation
    exact ⟨unchanged, hbase⟩
  · rintro ⟨invocation, rfl⟩
    exact ⟨change invocation, rfl⟩

end AssetLine

/-- Words that ask for the same but for entries that make up the same metadata end in the same way.
-/
theorem execute_eq_of_ofList_eq {σ : Type} (source : Entropy σ) (state : σ)
    {environment : String → Option String} (files : String → Except ReadFault (List UInt8))
    {words words' : List String} {base : Except ArgumentFault Invocation}
    {entries entries' : List (String × String)}
    (h : parse environment words = base.map fun invocation => .run { invocation with
      command := invocation.command.withMetadata entries })
    (h' : parse environment words' = base.map fun invocation => .run { invocation with
      command := invocation.command.withMetadata entries' })
    (hentries : Dictionary.ofList entries = .ofList entries') :
    execute source state environment files words =
      execute source state environment files words' := by
  rw [execute, execute, h, h']
  cases base with
  | error fault => rfl
  | ok invocation =>
    have hrun : ∀ settings,
        (invocation.command.withMetadata entries).run source state settings =
          (invocation.command.withMetadata entries').run source state settings := fun settings =>
      Command.run_withMetadata source state settings invocation.command hentries
    simp only [Except.map, Invocation.run, Invocation.settings, hrun]

/-- Metadata are assembled from the command line. Every accepted line about an asset spells options,
and texts can be given as metadata of any such line. The request that an accepted line asks for, and
that is signed, has the metadata that follow from the texts in their order and from the two options
for auxiliary data. A text without an equals sign is refused; it is the first such text that is
reported when nothing else is wrong. Other texts never decide whether a line is accepted, and if
their keys differ, their order and their places do not matter to how the line ends. -/
theorem metadata_is_assembled (environment : String → Option String) :
    (∀ words invocation, parse environment words = .ok (.run invocation) →
      invocation.command.assetRequest? ≠ none → ∃ line : AssetLine, line.words = words) ∧
    ∀ line : AssetLine,
      (∀ texts, ∃ other, line.SameBesidesMeta other ∧ other.metaTexts = texts) ∧
      (∀ invocation, parse environment line.words = .ok (.run invocation) →
        ∃ signing request, invocation.command.assetRequest? = some (signing, request) ∧
          (∀ (σ : Type) (source : Entropy σ) state settings,
            invocation.command.run source state settings = signAsset settings signing request) ∧
          AssembledFrom request.metadata line.metaTexts (line.value? "other-asset-id")
            (line.value? "components")) ∧
      (∀ text, firstUnreadable? line.metaTexts = some text →
        (∃ fault, parse environment line.words = .error fault) ∧
        ∀ other, line.SameBesidesMeta other → other.Accepted environment →
          parse environment line.words =
            .error (.invalidValue "meta" s!"expected key=value, got `{text}`")) ∧
      ∀ other, line.SameBesidesMeta other → firstUnreadable? line.metaTexts = none →
        firstUnreadable? other.metaTexts = none →
          (line.Accepted environment ↔ other.Accepted environment) ∧
          (line.metaTexts.Perm other.metaTexts →
            (line.metaTexts.map fun text => (pairOf text).1).Nodup →
              ∀ (σ : Type) (source : Entropy σ) state files,
                execute source state environment files line.words =
                  execute source state environment files other.words) := by
  refine ⟨fun words invocation => AssetLine.exists_of_parse, ?_⟩
  intro line
  obtain ⟨first, last, hparse⟩ := line.exists_parse_words_eq environment
  have hline := hparse line (.refl line)
  refine ⟨line.exists_metaTexts_eq, ?_, ?_, ?_⟩
  · intro invocation hinvocation
    rw [hline] at hinvocation
    obtain ⟨_, -, hcommand⟩ := bind_eq_ok_iff.mp hinvocation
    obtain ⟨command, hread, hlast⟩ := bind_eq_ok_iff.mp hcommand
    obtain ⟨options, -, hrun⟩ := bind_eq_ok_iff.mp hlast
    cases hrun
    obtain ⟨-, signing, request, hrequest, hassembled⟩ := AssetLine.assembledFrom_of_read hread
    refine ⟨signing, request, hrequest, ?_, hassembled⟩
    intro σ source state settings
    exact Command.run_eq_signAsset source state settings hrequest
  · intro text htext
    constructor
    · obtain ⟨fault, hfault⟩ := line.exists_read_eq_error environment htext
      rw [hline, hfault]
      cases first with
      | error earlier => exact ⟨earlier, rfl⟩
      | ok passed => exact ⟨fault, rfl⟩
    · intro other hsame haccepted
      obtain ⟨invocation, hinvocation⟩ := haccepted
      rw [hparse other hsame] at hinvocation
      obtain ⟨_, rfl, hcommand⟩ := bind_eq_ok_iff.mp hinvocation
      obtain ⟨command, hread, -⟩ := bind_eq_ok_iff.mp hcommand
      obtain ⟨base, hbase⟩ := hsame.exists_read_besides hread
      rw [hline, AssetLine.read_eq_error hbase htext]
      rfl
  · intro other hsame hreadable hreadable'
    obtain ⟨base, hbase, hbase'⟩ := hsame.exists_parse_eq environment hreadable hreadable'
    refine ⟨(AssetLine.accepted_iff hbase).trans (AssetLine.accepted_iff hbase').symm, ?_⟩
    intro hperm hkeys σ source state files
    exact execute_eq_of_ofList_eq source state files hbase hbase'
      (ofList_pairs_eq_of_perm hperm hkeys)

/-- The command that splits an asset into two components, with some texts as metadata. -/
def splitLine (texts : List String) : AssetLine where
  front := ["--log-level", "debug"]
  leading := [⟨{ OptionReader.shapeOf "log-level" readText with
    fallback? := "HAZE_LOG_LEVEL" }, "debug"⟩]
  name := "asset-action"
  reader := actionReader
  rest := texts.map ("--meta=" ++ ·) ++ ["--seed", KeyPair.onesText, "--nonce", "3",
    "--asset-id", Address.spacedText, "--action=split", "--components", "axe;helm"]
  occurrences := metaOccurrences texts ++ [
    ⟨{ OptionReader.shapeOf "seed" readText with fallback? := "HAZE_SEED" }, KeyPair.onesText⟩,
    ⟨{ OptionReader.shapeOf "nonce" readInt64 with allowsNegative := true }, "3"⟩,
    ⟨OptionReader.shapeOf "asset-id" readText, Address.spacedText⟩,
    ⟨OptionReader.shapeOf "action" (readName AssetAction.ofName), "split"⟩,
    ⟨OptionReader.shapeOf "components" readText, "axe;helm"⟩]
  spells_front := .detached rfl rfl rfl (Or.inl rfl) .nil
  mem_assetCommands := List.mem_cons_of_mem _ List.mem_cons_self
  spells_rest := by
    apply spells_metaWords (List.mem_cons_of_mem _ List.mem_cons_self)
    refine .detached rfl rfl rfl (Or.inl rfl) (.detached rfl rfl rfl (Or.inl rfl) ?_)
    refine .detached rfl rfl rfl (Or.inl rfl) (.attached rfl rfl rfl ?_)
    exact .detached rfl rfl rfl (Or.inl rfl) .nil

/-- The texts are those given as metadata. -/
theorem metaTexts_splitLine (texts : List String) : (splitLine texts).metaTexts = texts := by
  have hothers : valuesOf "meta" ((splitLine []).occurrences.map Occurrence.entry) = [] := rfl
  have hall : (splitLine texts).occurrences = metaOccurrences texts ++ (splitLine []).occurrences :=
    rfl
  rw [AssetLine.metaTexts, AssetLine.options, hall, List.map_append, valuesOf_append,
    valuesOf_metaOccurrences, hothers, List.append_nil]

/-- Other texts make no other difference. -/
theorem sameBesidesMeta_splitLine (texts texts' : List String) :
    (splitLine texts).SameBesidesMeta (splitLine texts') := by
  refine ⟨rfl, rfl, ?_⟩
  simp [AssetLine.besides, splitLine]

/-- Of the texts for the asset that is split the last one with a key counts, what stands behind the
first equals sign is its value, and the components are those of their option. Two texts can be
exchanged, and one without an equals sign is refused. -/
theorem metadata_is_assembled_split :
    (∃ invocation signing request,
      parse (fun _ => none) (splitLine ["_components=zz", "a==b", "=", "k=1", "k=2"]).words =
        .ok (.run invocation) ∧
      invocation.command.assetRequest? = some (signing, request) ∧
      request.metadata.get? componentsKey = some "axe;helm" ∧
      request.metadata.get? "a" = some "=b" ∧ request.metadata.get? "" = some "" ∧
      request.metadata.get? "k" = some "2" ∧ request.metadata.get? "zz" = none) ∧
    execute SeedCycle.source (.ofList []) (fun _ => none) (fun _ => .error .notFound)
        (splitLine ["x=1", "y=2"]).words =
      execute SeedCycle.source (.ofList []) (fun _ => none) (fun _ => .error .notFound)
        (splitLine ["y=2", "x=1"]).words ∧
    parse (fun _ => none) (splitLine ["k=1", "plain"]).words =
      .error (.invalidValue "meta" "expected key=value, got `plain`") := by
  obtain ⟨-, hlines⟩ := metadata_is_assembled fun _ => none
  refine ⟨?_, ?_, ?_⟩
  · obtain ⟨-, hassembled, -, -⟩ := hlines (splitLine ["_components=zz", "a==b", "=", "k=1", "k=2"])
    obtain ⟨invocation, hinvocation⟩ : ∃ invocation, parse (fun _ => none)
        (splitLine ["_components=zz", "a==b", "=", "k=1", "k=2"]).words =
          .ok (.run invocation) := ⟨_, rfl⟩
    obtain ⟨signing, request, hrequest, -, hmetadata⟩ := hassembled invocation hinvocation
    rw [metaTexts_splitLine] at hmetadata
    have hfound : ∀ key, key ≠ componentsKey → request.metadata.get? key =
        (Dictionary.ofList (["_components=zz", "a==b", "=", "k=1", "k=2"].map pairOf)).get? key :=
      fun key hkey => hmetadata.get?_eq (by decide) (fun _ => rfl) fun h => absurd h hkey
    refine ⟨invocation, signing, request, hinvocation, hrequest, ?_, ?_, ?_, ?_, ?_⟩
    · exact hmetadata.components_given "axe;helm" rfl
    · rw [hfound "a" (by decide)]
      decide
    · rw [hfound "" (by decide)]
      decide
    · rw [hfound "k" (by decide)]
      decide
    · rw [hfound "zz" (by decide)]
      decide
  · obtain ⟨-, -, -, hothers⟩ := hlines (splitLine ["x=1", "y=2"])
    obtain ⟨-, hprints⟩ := hothers _ (sameBesidesMeta_splitLine _ ["y=2", "x=1"])
      (by rw [metaTexts_splitLine]; decide) (by rw [metaTexts_splitLine]; decide)
    rw [metaTexts_splitLine, metaTexts_splitLine] at hprints
    exact hprints (.swap _ _ _) (by decide) _ _ _ _
  · obtain ⟨-, -, hrefused, -⟩ := hlines (splitLine ["k=1", "plain"])
    obtain ⟨-, hreported⟩ := hrefused "plain" (by rw [metaTexts_splitLine]; decide)
    exact hreported _ (sameBesidesMeta_splitLine _ []) ⟨_, rfl⟩

end CommandLine

end OfflineSigner
