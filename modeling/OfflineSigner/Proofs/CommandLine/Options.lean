import OfflineSigner.CommandLine.Command
import OfflineSigner.Proofs.Data.Except

/-!
# Words and the options that they spell

The words of a command line spell options in one of a few ways: the value may follow an equals sign
or be the next word, and a flag has no value. Reading such words lets the options count one after
the other, however each is spelled. Words that are read without a fault are of this kind, so a
command line that is accepted consists of the options of the program, the name of a subcommand and
the options of the subcommand.
-/

namespace OfflineSigner.CommandLine

open OfflineSigner.Except

-- Reading a word unfolds as soon as its form and the option at work are known.
attribute [local simp] Level.scan

/-- An option where it is given: its shape and the value given to it. -/
structure Occurrence where
  shape : OptionShape
  /-- The value; empty for a flag. -/
  value : String

/-- The name and the value, as they count. -/
def Occurrence.entry (occurrence : Occurrence) : String × String :=
  (occurrence.shape.name, occurrence.value)

/-- Whether a word behind an option is its value: any word that does not begin with a dash, or a
negative number where one is allowed. -/
def OptionShape.TakesNext (shape : OptionShape) (word : String) : Prop :=
  formOf word = .plain ∨
    ∃ letters, formOf word = .letters letters ∧ shape.allowsNegative = true ∧
      looksNumeric letters = true

/-- A level has an option: it is the one found by its name. -/
abbrev Level.Offers (level : Level) (shape : OptionShape) : Prop :=
  level.shapes.find? (·.name == shape.name) = some shape

/-- The words that spell one option of a level. -/
inductive Level.SpellsOption (level : Level) : List String → Occurrence → Prop
  /-- The value follows an equals sign. -/
  | attached {shape : OptionShape} {word value : String} :
      level.Offers shape → shape.takesValue = true → formOf word = .named shape.name (some value) →
        level.SpellsOption [word] ⟨shape, value⟩
  /-- The value is the next word. -/
  | detached {shape : OptionShape} {word value : String} :
      level.Offers shape → shape.takesValue = true → formOf word = .named shape.name none →
        shape.TakesNext value → level.SpellsOption [word, value] ⟨shape, value⟩
  /-- A flag has no value. -/
  | flag {shape : OptionShape} {word : String} :
      level.Offers shape → shape.takesValue = false → formOf word = .named shape.name none →
        level.SpellsOption [word] ⟨shape, ""⟩

/-- The words that spell some options of a level in their order. -/
inductive Level.Spells (level : Level) : List String → List Occurrence → Prop
  /-- No words spell no options. -/
  | nil : level.Spells [] []
  /-- A separator behind everything else spells nothing. -/
  | separator {word : String} : formOf word = .separator → level.Spells [word] []
  /-- The words of one option stand before those of the others. -/
  | cons {first words : List String} {occurrence : Occurrence} {occurrences : List Occurrence} :
      level.SpellsOption first occurrence → level.Spells words occurrences →
        level.Spells (first ++ words) (occurrence :: occurrences)

namespace Level.Spells

variable {level : Level} {shape : OptionShape} {word value : String} {words : List String}
  {occurrences : List Occurrence}

/-- A word with the value behind an equals sign stands before the words of the other options. -/
theorem attached (hshape : level.Offers shape) (htakes : shape.takesValue = true)
    (hword : formOf word = .named shape.name (some value)) (h : level.Spells words occurrences) :
    level.Spells (word :: words) (⟨shape, value⟩ :: occurrences) := by
  have hfirst : level.SpellsOption [word] ⟨shape, value⟩ := .attached hshape htakes hword
  exact .cons hfirst h

/-- A word and its value stand before the words of the other options. -/
theorem detached (hshape : level.Offers shape) (htakes : shape.takesValue = true)
    (hword : formOf word = .named shape.name none) (hvalue : shape.TakesNext value)
    (h : level.Spells words occurrences) :
    level.Spells (word :: value :: words) (⟨shape, value⟩ :: occurrences) := by
  have hfirst : level.SpellsOption [word, value] ⟨shape, value⟩ :=
    .detached hshape htakes hword hvalue
  exact .cons hfirst h

/-- The word of a flag stands before the words of the other options. -/
theorem flag (hshape : level.Offers shape) (htakes : shape.takesValue = false)
    (hword : formOf word = .named shape.name none) (h : level.Spells words occurrences) :
    level.Spells (word :: words) (⟨shape, ""⟩ :: occurrences) := by
  have hfirst : level.SpellsOption [word] ⟨shape, ""⟩ := .flag hshape htakes hword
  exact .cons hfirst h

end Level.Spells

/-- Lets options count one after the other. -/
def acceptAll (occurrences : List Occurrence) (given : Given) : Except ArgumentFault Given :=
  occurrences.foldlM (fun given occurrence => accept occurrence.shape occurrence.value given) given

/-- The first option counts before the others do. -/
@[simp] theorem acceptAll_cons (occurrence : Occurrence) (rest : List Occurrence) (given : Given) :
    acceptAll (occurrence :: rest) given =
      accept occurrence.shape occurrence.value given >>= acceptAll rest := rfl

/-- The words that are left when a level is read: those of a subcommand with its name, or none. -/
def Scanned.unread? : Scanned → Option (List String)
  | .finished _ => some []
  | .subcommand name rest _ _ => some (name :: rest)
  | _ => none

/-- No option waits for its value. -/
def Pending.IsComplete (pending : Pending) : Prop :=
  ∀ shape, pending ≠ .waiting shape

/-- No option is at work at first. -/
@[simp] theorem Pending.isComplete_idle : Pending.idle.IsComplete := by
  intro shape
  simp

/-- An option that has its value does not wait for one. -/
@[simp] theorem Pending.isComplete_holding (shape : OptionShape) (value : String) :
    (Pending.holding shape value).IsComplete := by
  intro other
  simp

namespace OptionReader

variable {α β : Type}

/-- Something is made of the value that a reader makes up. -/
theorem build_map (f : α → β) (reader : OptionReader α) (given : Given) :
    (f <$> reader).build given = (reader.build given).map f := rfl

/-- The options of a function are looked at before those of its argument. -/
theorem build_seq (function : OptionReader (α → β)) (argument : OptionReader α)
    (given : Given) : (function <*> argument).build given =
      function.build given >>= fun f => (argument.build given).map f := by
  change (function.build given >>= fun f => argument.build given >>= fun a => pure (f a)) = _
  cases function.build given <;> cases argument.build given <;> rfl

/-- A function and its argument make up a value exactly when both are made up. -/
theorem build_seq_eq_ok_iff {function : OptionReader (α → β)} {argument : OptionReader α}
    {given : Given} {result : β} : (function <*> argument).build given = .ok result ↔
      ∃ f value, function.build given = .ok f ∧ argument.build given = .ok value ∧
        result = f value := by
  rw [build_seq]
  constructor
  · intro h
    obtain ⟨f, hf, hmap⟩ := bind_eq_ok_iff.mp h
    obtain ⟨value, hvalue, hresult⟩ := map_eq_ok_iff.mp hmap
    exact ⟨f, value, hf, hvalue, hresult⟩
  · rintro ⟨f, value, hf, hvalue, rfl⟩
    exact bind_eq_ok_iff.mpr ⟨f, hf, map_eq_ok_iff.mpr ⟨value, hvalue, rfl⟩⟩

end OptionReader

namespace Level

variable {level : Level} {pending : Pending} {given : Given} {shape : OptionShape}
  {word value : String} {words : List String} {occurrences : List Occurrence}

/-! ## One option -/

/-- An option with its value behind an equals sign counts at once. -/
theorem scan_attached (hshape : level.Offers shape) (htakes : shape.takesValue = true)
    (hword : formOf word = .named shape.name (some value)) :
    level.scan false pending given (word :: words) =
      pending.settle given >>= accept shape value >>= fun given =>
        level.scan false .idle given words := by
  cases pending <;> simp [hword, hshape, htakes]

/-- An option without an equals sign waits for its value. -/
theorem scan_named (hshape : level.Offers shape) (htakes : shape.takesValue = true)
    (hword : formOf word = .named shape.name none) :
    level.scan false pending given (word :: words) =
      pending.settle given >>= fun given => level.scan false (.waiting shape) given words := by
  cases pending <;> simp [hword, hshape, htakes]

/-- The next word is its value. -/
theorem scan_next (hvalue : shape.TakesNext value) :
    level.scan false (.waiting shape) given (value :: words) =
      level.scan false (.holding shape value) given words := by
  rcases hvalue with hplain | ⟨letters, hletters, hallowed, hnumeric⟩
  · simp [hplain]
  · simp [hletters, hallowed, hnumeric]

/-- A flag counts at once. -/
theorem scan_flag (hshape : level.Offers shape) (htakes : shape.takesValue = false)
    (hword : formOf word = .named shape.name none) :
    level.scan false pending given (word :: words) =
      pending.settle given >>= accept shape "" >>= fun given =>
        level.scan false .idle given words := by
  cases pending <;> simp [hword, hshape, htakes]

/-- Whichever way an option is spelled, it counts behind the option at work, at once or as soon as
it is settled itself. -/
theorem exists_scan_option {first : List String} {occurrence : Occurrence}
    (h : level.SpellsOption first occurrence) (pending : Pending) (given : Given) :
    ∃ (counted : Except ArgumentFault Given) (next : Pending), next.IsComplete ∧
      (∀ words, level.scan false pending given (first ++ words) =
        counted >>= fun given => level.scan false next given words) ∧
      (counted >>= fun given => next.settle given) =
        pending.settle given >>= accept occurrence.shape occurrence.value := by
  cases h with
  | attached hshape htakes hword =>
    refine ⟨_, .idle, by simp, fun words => scan_attached hshape htakes hword, ?_⟩
    exact bind_pure _
  | @detached shape word value hshape htakes hword hvalue =>
    refine ⟨pending.settle given, .holding shape value, by simp, fun words => ?_, rfl⟩
    rw [List.cons_append, scan_named hshape htakes hword]
    simp only [List.singleton_append, scan_next hvalue]
  | flag hshape htakes hword =>
    refine ⟨_, .idle, by simp, fun words => scan_flag hshape htakes hword, ?_⟩
    exact bind_pure _

/-- The shape of an option that is spelled is the one that the level has for its name. -/
theorem SpellsOption.offers {first : List String} {occurrence : Occurrence}
    (h : level.SpellsOption first occurrence) : level.Offers occurrence.shape := by
  cases h <;> assumption

/-! ## All options -/

/-- All options that are spelled have the shapes that the level has for their names. -/
theorem Spells.offers (h : level.Spells words occurrences) {occurrence : Occurrence}
    (hmem : occurrence ∈ occurrences) : level.Offers occurrence.shape := by
  induction h with
  | nil => contradiction
  | separator => contradiction
  | cons hfirst _ ih =>
    rcases List.mem_cons.mp hmem with rfl | hrest
    · exact hfirst.offers
    · exact ih hrest

/-- Some of the options that words spell are spelled without the others. -/
theorem Spells.exists_filter (h : level.Spells words occurrences) (p : Occurrence → Bool) :
    ∃ words', level.Spells words' (occurrences.filter p) := by
  induction h with
  | nil => exact ⟨[], .nil⟩
  | separator => exact ⟨[], .nil⟩
  | @cons first _ occurrence _ hfirst _ ih =>
    obtain ⟨rest, hrest⟩ := ih
    cases hp : p occurrence with
    | true =>
      rw [List.filter_cons_of_pos hp]
      exact ⟨first ++ rest, .cons hfirst hrest⟩
    | false => exact ⟨rest, by simpa [hp] using hrest⟩

/-- A separator behind everything else leaves the option at work to count. -/
theorem scan_separator (hword : formOf word = .separator) :
    level.scan false pending given [word] = (pending.settle given).map .finished := by
  cases pending <;> simp [hword]

/-- Words that spell options let these count one after the other, behind the option at work. -/
theorem scan_of_spells (h : level.Spells words occurrences) (pending : Pending) (given : Given) :
    level.scan false pending given words =
      (pending.settle given >>= acceptAll occurrences).map .finished := by
  induction h generalizing pending given with
  | nil =>
    rw [scan]
    cases pending.settle given <;> rfl
  | separator hword =>
    rw [scan_separator hword]
    cases pending.settle given <;> rfl
  | @cons first words occurrence rest hfirst _ ih =>
    obtain ⟨counted, next, -, hscan, hsettle⟩ := exists_scan_option hfirst pending given
    have hfinished := congrArg (fun outcome => (outcome >>= acceptAll rest).map Scanned.finished)
      hsettle
    simpa only [hscan, ih, map_bind, bind_assoc, acceptAll_cons] using hfinished

/-! ## Nothing else is read -/

/-- Some words go on where an option is at work: its value comes first if it waits for one, and the
words that follow spell options. -/
def Continues (level : Level) : Pending → List String → Prop
  | .waiting shape, words => ∃ value rest occurrences, words = value :: rest ∧
      shape.TakesNext value ∧ level.Spells rest occurrences
  | _, words => ∃ occurrences, level.Spells words occurrences

/-- A letter asks for help or the version. -/
theorem unread?_of_scanLetter {letter : Char} {scanned : Scanned}
    (h : level.scanLetter pending given letter = .ok scanned) : scanned.unread? = none := by
  rw [scanLetter] at h
  split at h
  · obtain ⟨_, _, rfl⟩ := map_eq_ok_iff.mp h
    rfl
  · split at h
    · obtain ⟨_, _, rfl⟩ := map_eq_ok_iff.mp h
      rfl
    · contradiction

/-- Where an option can count, the words that go on are those that spell options. -/
theorem continues_iff {settled : Given} (hsettle : pending.settle given = .ok settled) :
    level.Continues pending words ↔ ∃ occurrences, level.Spells words occurrences := by
  cases pending with
  | waiting shape => contradiction
  | idle => rfl
  | holding shape value => rfl

/-- Behind the separator there is no further word. -/
theorem eq_nil_of_scan {scanned : Scanned} (h : level.scan true pending given words = .ok scanned) :
    words = [] ∧ ∃ settled, pending.settle given = .ok settled ∧ scanned = .finished settled := by
  cases words with
  | nil =>
    rw [scan] at h
    exact ⟨rfl, map_eq_ok_iff.mp h⟩
  | cons word rest => simp at h

/-- The word is the value that the option at work waits for. -/
def IsNext (pending : Pending) (word : String) : Prop :=
  ∃ shape, pending = .waiting shape ∧ shape.TakesNext word

/-- A word without a dash that is no value names the subcommand. -/
theorem scan_plain (hword : formOf word = .plain) (hnext : ¬ IsNext pending word) :
    level.scan false pending given (word :: words) =
      if level.subcommands.contains word then .ok (.subcommand word words pending given)
      else .error (level.misplaced false word) := by
  cases pending with
  | waiting shape => exact absurd ⟨shape, rfl, Or.inl hword⟩ hnext
  | idle => simp [hword]
  | holding shape value => simp [hword]

/-- A dash and letters that are no value ask for help or the version. -/
theorem scan_letters {letters : List Char} (hword : formOf word = .letters letters)
    (hnext : ¬ IsNext pending word) : level.scan false pending given (word :: words) =
      level.scanLetter pending given (letters.headD ' ') := by
  cases pending with
  | waiting shape =>
    have hno : ¬ (shape.allowsNegative = true ∧ looksNumeric letters = true) := fun hnumber =>
      hnext ⟨shape, rfl, Or.inr ⟨letters, hword, hnumber⟩⟩
    simp [hword, hno]
  | idle => simp [hword]
  | holding shape value => simp [hword]

/-- A name that no option has asks for help or the version. -/
theorem unread?_of_scan_named {scanned : Scanned} {name : String} {attached : Option String}
    (hshape : level.shapes.find? (·.name == name) = none)
    (hword : formOf word = .named name attached)
    (h : level.scan false pending given (word :: words) = .ok scanned) :
    scanned.unread? = none := by
  have hasks : (pending.settle given).map
      (fun _ => if name == "help" then Scanned.help else .version) = .ok scanned := by
    cases pending <;> simp only [scan, hword, hshape] at h
    all_goals
      split at h
      · contradiction
      · split at h
        · cases attached with
          | some value => contradiction
          | none => exact h
        · contradiction
  obtain ⟨_, _, rfl⟩ := map_eq_ok_iff.mp hasks
  split <;> rfl

/-- Words that are read without a fault spell options, up to the words that are left. -/
theorem continues_of_scan {scanned : Scanned} {unread : List String}
    (h : level.scan false pending given words = .ok scanned)
    (hunread : scanned.unread? = some unread) :
    ∃ front, words = front ++ unread ∧ level.Continues pending front := by
  induction words generalizing pending given with
  | nil =>
    rw [scan] at h
    obtain ⟨settled, hsettle, rfl⟩ := map_eq_ok_iff.mp h
    obtain rfl := Option.some.inj hunread
    exact ⟨[], rfl, (continues_iff hsettle).mpr ⟨[], .nil⟩⟩
  | cons word rest ih =>
    by_cases hnext : IsNext pending word
    · obtain ⟨shape, rfl, hvalue⟩ := hnext
      rw [scan_next hvalue] at h
      obtain ⟨front, rfl, occurrences, hfront⟩ := ih h
      exact ⟨word :: front, rfl, word, front, occurrences, rfl, hvalue, hfront⟩
    cases hform : formOf word with
    | separator =>
      have h : level.scan true pending given rest = .ok scanned := by
        cases pending <;> simpa [hform] using h
      obtain ⟨rfl, settled, hsettle, rfl⟩ := eq_nil_of_scan h
      obtain rfl := Option.some.inj hunread
      exact ⟨[word], rfl, (continues_iff hsettle).mpr ⟨[], .separator hform⟩⟩
    | plain =>
      rw [scan_plain hform hnext] at h
      split at h
      · obtain rfl := Except.ok.inj h
        obtain rfl := Option.some.inj hunread
        refine ⟨[], rfl, ?_⟩
        cases pending with
        | waiting shape => exact absurd ⟨shape, rfl, Or.inl hform⟩ hnext
        | idle => exact ⟨[], .nil⟩
        | holding shape value => exact ⟨[], .nil⟩
      · contradiction
    | letters letters =>
      rw [scan_letters hform hnext] at h
      cases hunread.symm.trans (unread?_of_scanLetter h)
    | named name attached =>
      cases hshape : level.shapes.find? (·.name == name) with
      | none => cases hunread.symm.trans (unread?_of_scan_named hshape hform h)
      | some shape =>
        obtain rfl : shape.name = name := by simpa using List.find?_some hshape
        cases htakes : shape.takesValue with
        | true =>
          cases attached with
          | some value =>
            rw [scan_attached hshape htakes hform] at h
            obtain ⟨accepted, haccepted, hrest⟩ := bind_eq_ok_iff.mp h
            obtain ⟨settled, hsettle, -⟩ := bind_eq_ok_iff.mp haccepted
            obtain ⟨front, rfl, occurrences, hfront⟩ := ih hrest
            exact ⟨word :: front, rfl, (continues_iff hsettle).mpr
              ⟨_, .attached hshape htakes hform hfront⟩⟩
          | none =>
            rw [scan_named hshape htakes hform] at h
            obtain ⟨settled, hsettle, hrest⟩ := bind_eq_ok_iff.mp h
            obtain ⟨front, rfl, value, after, occurrences, rfl, hvalue, hafter⟩ := ih hrest
            exact ⟨word :: value :: after, rfl, (continues_iff hsettle).mpr
              ⟨_, .detached hshape htakes hform hvalue hafter⟩⟩
        | false =>
          cases attached with
          | some value => cases pending <;> simp [hform, hshape, htakes] at h
          | none =>
            rw [scan_flag hshape htakes hform] at h
            obtain ⟨accepted, haccepted, hrest⟩ := bind_eq_ok_iff.mp h
            obtain ⟨settled, hsettle, -⟩ := bind_eq_ok_iff.mp haccepted
            obtain ⟨front, rfl, occurrences, hfront⟩ := ih hrest
            exact ⟨word :: front, rfl, (continues_iff hsettle).mpr
              ⟨_, .flag hshape htakes hform hfront⟩⟩

/-- Words are all read exactly when they spell options that can count one after the other. -/
theorem scan_eq_finished_iff : level.scan false .idle [] words = .ok (.finished given) ↔
    ∃ occurrences, level.Spells words occurrences ∧ acceptAll occurrences [] = .ok given := by
  constructor
  · intro h
    obtain ⟨front, hfront, occurrences, hspells⟩ := continues_of_scan h rfl
    obtain rfl : words = front := hfront.trans (List.append_nil front)
    rw [scan_of_spells hspells] at h
    obtain ⟨given, hgiven, heq⟩ := map_eq_ok_iff.mp h
    cases heq
    exact ⟨occurrences, hspells, hgiven⟩
  · rintro ⟨occurrences, hspells, hgiven⟩
    rw [scan_of_spells hspells]
    exact map_eq_ok_iff.mpr ⟨given, hgiven, rfl⟩

/-- How the words before a subcommand are read does not depend on the words behind it. -/
def ReachesAlike (level : Level) (pending : Pending) (given : Given) (front : List String)
    (name : String) : Prop :=
  ∃ reached : Except ArgumentFault (Pending × Given), ∀ rest,
    level.scan false pending given (front ++ name :: rest) =
      reached.map fun reached => .subcommand name rest reached.1 reached.2

/-- Words that spell options before a subcommand are read without regard to the words behind it. -/
theorem reachesAlike_of_spells {front : List String} {name : String}
    (h : level.Spells front occurrences) (hname : formOf name = .plain)
    (hsubcommand : level.subcommands.contains name = true) (hpending : pending.IsComplete)
    (given : Given) : level.ReachesAlike pending given front name := by
  induction h generalizing pending given with
  | nil =>
    refine ⟨.ok (pending, given), ?_⟩
    intro rest
    rw [List.nil_append, scan_plain hname, if_pos hsubcommand]
    · rfl
    · rintro ⟨shape, hwaiting, -⟩
      exact hpending shape hwaiting
  | separator hword =>
    refine ⟨.error (level.misplaced true name), ?_⟩
    intro rest
    cases pending <;> simp [hword, Except.map]
  | cons hfirst _ ih =>
    obtain ⟨counted, next, hnext, hscan, -⟩ := exists_scan_option hfirst pending given
    cases counted with
    | error fault =>
      refine ⟨.error fault, ?_⟩
      intro rest
      rw [List.append_assoc, hscan]
      rfl
    | ok accepted =>
      obtain ⟨reached, hreached⟩ := ih hnext accepted
      refine ⟨reached, ?_⟩
      intro rest
      rw [List.append_assoc, hscan]
      exact hreached rest

end Level

/-! ## Whole command lines -/

/-- What a reader makes of options that count one after the other and of the environment. -/
def OptionReader.read {α : Type} (reader : OptionReader α) (environment : String → Option String)
    (occurrences : List Occurrence) : Except ArgumentFault α := do
  let given ← acceptAll occurrences []
  let given ← addVariables environment reader.shapes given
  reader.build given

/-- The words of a subcommand: its options. -/
def OptionReader.level {α : Type} (reader : OptionReader α) : Level :=
  ⟨reader.shapes, [], false⟩

variable {environment : String → Option String} {reader : OptionReader Command} {name : String}
  {words front : List String} {occurrences leading : List Occurrence}

/-- A subcommand is found by its name, which is a word of the first level. -/
theorem lookup_of_mem_subcommands (h : (name, reader) ∈ subcommands) :
    subcommands.lookup name = some reader ∧ firstLevel.subcommands.contains name = true ∧
      formOf name = .plain := by
  simp only [subcommands, List.mem_cons, List.not_mem_nil, or_false, Prod.mk.injEq] at h
  rcases h with ⟨rfl, rfl⟩ | ⟨rfl, rfl⟩ | ⟨rfl, rfl⟩ | ⟨rfl, rfl⟩ | ⟨rfl, rfl⟩
  all_goals exact ⟨rfl, rfl, rfl⟩

/-- Words that spell the options of a subcommand amount to what its reader makes of them. -/
theorem parseSubcommand_of_spells (h : reader.level.Spells words occurrences) :
    parseSubcommand environment reader words =
      (reader.read environment occurrences).map .run := by
  have hscan : Level.scan ⟨reader.shapes, [], false⟩ false .idle [] words =
      (acceptAll occurrences []).map .finished := Level.scan_of_spells h .idle []
  rw [parseSubcommand, hscan, OptionReader.read]
  cases acceptAll occurrences [] with
  | error fault => rfl
  | ok given =>
    rw [ok_bind, map_bind]
    rfl

/-- What the options before a subcommand amount to does not depend on the command. -/
theorem exists_leading_eq (environment : String → Option String) (pending : Pending)
    (given : Given) : ∃ last : Except ArgumentFault (Option String × Option String), ∀ command,
      (do
        let given ← pending.settle given
        let given ← addVariables environment leadingOptions.shapes given
        return Request.run ((← leadingOptions.build given) command)) =
      last >>= fun options => .ok (.run ⟨options.1, options.2, command⟩) := by
  refine ⟨do
    let given ← pending.settle given
    let given ← addVariables environment leadingOptions.shapes given
    let complete ← leadingOptions.build given
    return ((complete .keygen).config, (complete .keygen).logLevel), ?_⟩
  intro command
  cases pending.settle given with
  | error fault => rfl
  | ok given =>
    simp only [ok_bind]
    cases addVariables environment leadingOptions.shapes given with
    | error fault => rfl
    | ok given =>
      simp only [ok_bind, leadingOptions, OptionReader.build_seq, OptionReader.build_map]
      cases ((OptionReader.optional "config" readPath).orVariable "HAZE_CONFIG").build given with
      | error fault => rfl
      | ok config =>
        cases ((OptionReader.optional "log-level" readText).orVariable
            "HAZE_LOG_LEVEL").build given with
        | error fault => rfl
        | ok logLevel => rfl

/-- The options before a subcommand and those behind it are read apart. -/
theorem exists_parse_eq (hfront : firstLevel.Spells front leading)
    (hname : (name, reader) ∈ subcommands) (environment : String → Option String) :
    ∃ (first : Except ArgumentFault Unit)
      (last : Except ArgumentFault (Option String × Option String)),
      ∀ words occurrences, reader.level.Spells words occurrences →
        parse environment (front ++ name :: words) =
          first >>= fun _ => reader.read environment occurrences >>= fun command =>
            last >>= fun options => .ok (.run ⟨options.1, options.2, command⟩) := by
  obtain ⟨hlookup, hsubcommand, hplain⟩ := lookup_of_mem_subcommands hname
  obtain ⟨reached, hreached⟩ := Level.reachesAlike_of_spells hfront hplain hsubcommand
    Pending.isComplete_idle []
  cases reached with
  | error fault =>
    refine ⟨.error fault, .error fault, ?_⟩
    intro words occurrences hwords
    rw [parse, hreached]
    rfl
  | ok reached =>
    obtain ⟨last, hlast⟩ := exists_leading_eq environment reached.1 reached.2
    refine ⟨.ok (), last, ?_⟩
    intro words occurrences hwords
    rw [parse, hreached, Except.map, ok_bind]
    simp only [hlookup, parseSubcommand_of_spells hwords]
    cases reader.read environment occurrences with
    | error fault => rfl
    | ok command => exact hlast command

/-- Words of a subcommand that are accepted spell its options. -/
theorem exists_spells_of_parseSubcommand {command : Command}
    (h : parseSubcommand environment reader words = .ok (.run command)) :
    ∃ occurrences, reader.level.Spells words occurrences ∧
      reader.read environment occurrences = .ok command := by
  obtain ⟨scanned, hscan, hscanned⟩ := bind_eq_ok_iff.mp h
  cases scanned with
  | finished given =>
    obtain ⟨occurrences, hwords, -⟩ := Level.scan_eq_finished_iff.mp hscan
    rw [parseSubcommand_of_spells hwords] at h
    obtain ⟨read, hread, hrun⟩ := map_eq_ok_iff.mp h
    cases hrun
    exact ⟨occurrences, hwords, hread⟩
  | subcommand name rest pending given => contradiction
  | help => cases hscanned
  | version => cases hscanned

/-- Nothing is run for words that ask for help. -/
theorem parseHelp_ne_run (invocation : Invocation) : parseHelp words ≠ .ok (.run invocation) := by
  intro h
  unfold parseHelp at h
  split at h
  · cases h
  · split at h
    · split at h <;> cases h
    · cases h

/-- Every command line that is accepted spells the options of the program and of a subcommand. -/
theorem exists_spells_of_parse {invocation : Invocation}
    (h : parse environment words = .ok (.run invocation)) :
    ∃ front leading name reader rest occurrences, words = front ++ name :: rest ∧
      firstLevel.Spells front leading ∧ (name, reader) ∈ subcommands ∧
      reader.level.Spells rest occurrences ∧
      reader.read environment occurrences = .ok invocation.command := by
  obtain ⟨scanned, hscan, hscanned⟩ := bind_eq_ok_iff.mp h
  cases scanned with
  | finished given =>
    obtain ⟨_, _, hmissing⟩ := bind_eq_ok_iff.mp hscanned
    contradiction
  | help => cases hscanned
  | version => cases hscanned
  | subcommand name rest pending given =>
    obtain ⟨front, hwords, leading, hfront⟩ := Level.continues_of_scan hscan rfl
    cases hlookup : subcommands.lookup name with
    | none =>
      simp only [hlookup] at hscanned
      exact absurd hscanned (parseHelp_ne_run invocation)
    | some reader =>
      obtain ⟨before, after, hmem, -⟩ := List.lookup_eq_some_iff.mp hlookup
      have hname : (name, reader) ∈ subcommands := by simp [hmem]
      simp only [hlookup] at hscanned
      obtain ⟨request, hrequest, hrun⟩ := bind_eq_ok_iff.mp hscanned
      cases request with
      | help => cases hrun
      | version => cases hrun
      | run command =>
        obtain ⟨last, hlast⟩ := exists_leading_eq environment pending given
        obtain ⟨occurrences, hrest, hread⟩ := exists_spells_of_parseSubcommand hrequest
        obtain ⟨options, -, hcommand⟩ := bind_eq_ok_iff.mp ((hlast command).symm.trans hrun)
        cases hcommand
        exact ⟨front, leading, name, reader, rest, occurrences, hwords, hfront, hname, hrest,
          hread⟩

end OfflineSigner.CommandLine
