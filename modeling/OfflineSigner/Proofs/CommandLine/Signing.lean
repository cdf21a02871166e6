import OfflineSigner.CommandLine.Run
import OfflineSigner.Proofs.Json.Line
import OfflineSigner.Proofs.Key.SeedText
import OfflineSigner.Proofs.Wallet.Respelling

/-!
# Commands that sign

Three commands sign something. They differ in what is built and in whether there is an amount to
check; the seed, the fee, the counter and the scope are treated alike, so the three are jobs of one
kind and one theorem tells how a job comes out. A job prints what the library builds for the key
pair of the seed, on a line of its own, or it prints nothing and reports the first check that fails:
the seed, the numbers in their order, then whatever the library reports. Settings that cannot be
loaded or that name no log format stop every command before that.
-/

namespace OfflineSigner

/-- What is built for a transfer is on one line. -/
theorem Signer.newline_notMem_buildTransfer {signer : Signer} {recipient : String}
    {amount fee nonce : UInt64} {scope : ChainScope} {signed : SignedText}
    (h : signer.buildTransfer recipient amount fee nonce scope = .ok signed) :
    '\n' ∉ signed.text.toList := by
  obtain ⟨key, signature, -, -, rfl⟩ := buildTransfer_eq_ok_iff.mp h
  exact Json.newline_notMem_render (Transfer.exact_wireJson _ _)

/-- What is built for an action on an asset is on one line. -/
theorem Signer.newline_notMem_buildAssetAction {signer : Signer} {request : AssetRequest}
    {signed : SignedText} (h : signer.buildAssetAction request = .ok signed) :
    '\n' ∉ signed.text.toList := by
  obtain ⟨asset, signature, -, -, rfl⟩ := buildAssetAction_eq_ok_iff.mp h
  exact Json.newline_notMem_render (asset.exact_wireJson _ _ _)

/-- The body that submits a text on one line is on one line. -/
theorem SignedText.newline_notMem_submissionBody {signed : SignedText}
    (h : '\n' ∉ signed.text.toList) : '\n' ∉ signed.submissionBody.toList := by
  have hbefore : '\n' ∉ "\x7b\"transaction\":".toList := by decide
  have hbehind : '\n' ∉ "\x7d".toList := by decide
  -- The body is spelled out so that unfolding does not evaluate its fixed texts.
  change '\n' ∉ ("\x7b\"transaction\":" ++ signed.text ++ "\x7d").toList
  rw [String.toList_append, String.toList_append, List.mem_append, List.mem_append]
  exact not_or.mpr ⟨not_or.mpr ⟨hbefore, h⟩, hbehind⟩

/-- A number that is not negative is the same without its sign. -/
theorem UInt64.ofNat_toInt {value : Int64} (h : 0 ≤ value) :
    UInt64.ofNat value.toInt.toNat = value.toUInt64 := by
  have hvalue : value.toUInt64.toNat = value.toInt.toNat := Int64.toNat_toUInt64_of_le h
  rw [← hvalue, UInt64.ofNat_toNat]

/-- The refusal of a number, which is shown with its name. -/
def WalletError.negative (number : String × Int64) : WalletError :=
  .invalidInput (number.1 ++ " must not be negative, got " ++ Decimal.ofInt number.2.toInt)

/-- A number is refused exactly when it is negative. -/
theorem nonNegative_eq (field : String) (value : Int64) :
    nonNegative field value =
      if 0 ≤ value then .ok value.toUInt64 else .error (.negative (field, value)) := by
  have hsign : 0 ≤ value ↔ 0 ≤ value.toInt := Int64.le_iff_toInt_le
  by_cases h : 0 ≤ value
  · rw [nonNegative, if_neg (Int.not_lt.mpr (hsign.mp h)), if_pos h, UInt64.ofNat_toInt h]
  · rw [nonNegative, if_pos (Int.not_le.mp (mt hsign.mpr h)), if_neg h]
    simp [WalletError.negative, toString]

namespace CommandLine

/-- What a command that signs asks for: the options that all of them have, the amount if there is
one, and what the library builds for a signer with a fee, a counter and a scope. -/
structure SigningJob where
  signing : SigningOptions
  amount : Option Int64
  build : Signer → UInt64 → UInt64 → ChainScope → Except WalletError SignedText

/-- The job of a command, if the command signs. -/
def Command.job? : Command → Option SigningJob
  | keygen => none
  | address _ => none
  | transfer signing recipient amount =>
    some ⟨signing, some amount, fun signer => signer.buildTransfer recipient amount.toUInt64⟩
  | createAsset signing asset =>
    some ⟨signing, none, fun signer =>
      signer.buildCreate asset.assetId asset.density (.ofList asset.metadata) asset.gameId⟩
  | assetAction signing asset action owner otherAsset components =>
    some ⟨signing, none, fun signer fee nonce scope => signer.buildAssetAction {
      action
      assetId := asset.assetId
      owner
      density := asset.density
      metadata := addEntry (addEntry (.ofList asset.metadata) otherAssetKey otherAsset)
        componentsKey components
      gameId := asset.gameId
      fee
      nonce
      scope }⟩

/-- The first negative one of some numbers. -/
def firstNegative? (numbers : List (String × Int64)) : Option (String × Int64) :=
  numbers.find? fun number => number.2 < 0

/-- No number is found exactly when none is negative. -/
theorem firstNegative?_eq_none_iff {numbers : List (String × Int64)} :
    firstNegative? numbers = none ↔ ∀ number ∈ numbers, 0 ≤ number.2 := by
  simp [firstNegative?]

/-- The fee, if one is given, and the counter, by the names under which they are refused. -/
def SigningOptions.numbers (signing : SigningOptions) : List (String × Int64) :=
  signing.fee.toList.map ("fee", ·) ++ [("nonce", signing.nonce)]

namespace SigningJob

/-- The numbers that must not be negative, in the order in which they are checked. -/
def numbers (job : SigningJob) : List (String × Int64) :=
  job.amount.toList.map ("amount", ·) ++ job.signing.numbers

/-- What the library builds for a key pair: with the fee that is given or else the usual one, the
counter, and the scope that options and settings make up. -/
def built (job : SigningJob) (settings : Settings) (pair : KeyPair) :
    Except WalletError SignedText :=
  job.build pair.signer ((job.signing.fee.map Int64.toUInt64).getD settings.defaultFee)
    job.signing.nonce.toUInt64 (job.signing.scope settings)

/-- What is printed of a signed text: the text itself, or the body that submits it. -/
def shown (job : SigningJob) (signed : SignedText) : String :=
  if job.signing.envelope then signed.submissionBody else signed.text

/-- How a job comes out under some settings. -/
structure ComesOut (job : SigningJob) (settings : Settings) (outcome : Except Failure String) :
    Prop where
  /-- It prints a text exactly when the seed is one, no number is negative and the library builds;
  the text is what the library built, with an end of line. -/
  prints_iff : ∀ text, outcome = .ok text ↔ ∃ pair signed,
    KeyPair.ofSeedHex job.signing.seed = .ok pair ∧ (∀ number ∈ job.numbers, 0 ≤ number.2) ∧
      job.built settings pair = .ok signed ∧ text = job.shown signed ++ "\n"
  /-- What it prints is a single line. -/
  single_line : ∀ text, outcome = .ok text → ∃ line, text = line ++ "\n" ∧ '\n' ∉ line.toList
  /-- It fails for the seed, or else for the first negative number, or else as the library does. -/
  fails_iff : ∀ failure, outcome = .error failure ↔
    (∃ error, KeyPair.ofSeedHex job.signing.seed = .error error ∧ failure = .signerSeed error) ∨
    ∃ pair, KeyPair.ofSeedHex job.signing.seed = .ok pair ∧
      ((∃ number, firstNegative? job.numbers = some number ∧ failure = .wallet (.negative number)) ∨
      (∀ number ∈ job.numbers, 0 ≤ number.2) ∧
        ∃ error, job.built settings pair = .error error ∧ failure = .wallet error)

end SigningJob

/-- Refuses the first negative one of some numbers under its name. -/
def refuseNegative (numbers : List (String × Int64)) : Except Failure Unit :=
  match firstNegative? numbers with
  | some number => .error (.wallet (.negative number))
  | none => .ok ()

/-- A number that is read without its sign is one more number to be checked. -/
theorem liftWallet_nonNegative_bind {α : Type} (field : String) (value : Int64)
    (rest : List (String × Int64)) (next : UInt64 → Except Failure α) :
    (liftWallet (nonNegative field value) >>= fun number =>
      refuseNegative rest >>= fun _ => next number) =
      refuseNegative ((field, value) :: rest) >>= fun _ => next value.toUInt64 := by
  rw [nonNegative_eq, refuseNegative, refuseNegative, firstNegative?, firstNegative?]
  by_cases h : 0 ≤ value
  · rw [if_pos h, List.find?_cons_of_neg (by simpa using h)]
    rfl
  · rw [if_neg h, List.find?_cons_of_pos (by simpa using h)]
    rfl

/-- The fee and the counter are checked one after the other. -/
theorem SigningOptions.resolveFee_bind {α : Type} (signing : SigningOptions) (settings : Settings)
    (next : UInt64 → UInt64 → Except Failure α) :
    (liftWallet (signing.resolveFee settings) >>= fun fee =>
      liftWallet (nonNegative "nonce" signing.nonce) >>= fun nonce => next fee nonce) =
      refuseNegative signing.numbers >>= fun _ =>
        next ((signing.fee.map Int64.toUInt64).getD settings.defaultFee)
          signing.nonce.toUInt64 := by
  -- The counter is checked last, so behind it there is no further number.
  have hnonce : ∀ fee, (liftWallet (nonNegative "nonce" signing.nonce) >>= next fee) =
      refuseNegative [("nonce", signing.nonce)] >>= fun _ => next fee signing.nonce.toUInt64 :=
    fun fee => liftWallet_nonNegative_bind "nonce" signing.nonce [] (next fee)
  simp only [hnonce, resolveFee, numbers]
  cases signing.fee with
  | none => rfl
  | some fee =>
    exact liftWallet_nonNegative_bind "fee" fee [("nonce", signing.nonce)] fun fee =>
      next fee signing.nonce.toUInt64

namespace SigningJob

/-- What a job gives: its checks in their order, and the line made of what the library builds. -/
def run (job : SigningJob) (settings : Settings) : Except Failure String := do
  let pair ← job.signing.keyPair
  refuseNegative job.numbers
  let signed ← liftWallet (job.built settings pair)
  return job.shown signed ++ "\n"

end SigningJob

/-- Signing an action on an asset is a job. -/
theorem signAsset_eq (settings : Settings) (signing : SigningOptions) (request : AssetRequest) :
    signAsset settings signing request =
      SigningJob.run ⟨signing, none, fun signer fee nonce scope =>
        signer.buildAssetAction { request with fee, nonce, scope }⟩ settings := by
  rw [signAsset, SigningJob.run]
  congr 1
  funext pair
  exact signing.resolveFee_bind settings fun fee nonce => do
    let signed ← liftWallet (pair.signer.buildAssetAction
      { request with fee, nonce, scope := signing.scope settings })
    return signing.line signed

/-- A command that signs does its job. -/
theorem Command.run_eq_of_job? {σ : Type} (source : Entropy σ) (state : σ) (settings : Settings)
    {command : Command} {job : SigningJob} (h : command.job? = some job) :
    command.run source state settings = job.run settings := by
  cases command with
  | keygen => contradiction
  | address seed => contradiction
  | transfer signing recipient amount =>
    obtain rfl := Option.some.inj h
    rw [run, SigningJob.run]
    congr 1
    funext pair
    simp only [SigningOptions.resolveFee_bind signing settings]
    exact liftWallet_nonNegative_bind "amount" amount signing.numbers fun amount => do
      let signed ← liftWallet (pair.signer.buildTransfer recipient amount
        ((signing.fee.map Int64.toUInt64).getD settings.defaultFee) signing.nonce.toUInt64
        (signing.scope settings))
      return signing.line signed
  | createAsset signing asset =>
    obtain rfl := Option.some.inj h
    exact signAsset_eq settings signing (asset.request .create)
  | assetAction signing asset action owner otherAsset components =>
    obtain rfl := Option.some.inj h
    exact signAsset_eq settings signing _

/-- Numbers pass exactly when none is negative. -/
theorem refuseNegative_eq_ok_iff {numbers : List (String × Int64)} {passed : Unit} :
    refuseNegative numbers = .ok passed ↔ ∀ number ∈ numbers, 0 ≤ number.2 := by
  rw [refuseNegative, ← firstNegative?_eq_none_iff]
  cases firstNegative? numbers <;> simp

/-- Numbers are refused for the first negative one. -/
theorem refuseNegative_eq_error_iff {numbers : List (String × Int64)} {failure : Failure} :
    refuseNegative numbers = .error failure ↔
      ∃ number, firstNegative? numbers = some number ∧ failure = .wallet (.negative number) := by
  rw [refuseNegative]
  cases firstNegative? numbers <;> simp [eq_comm]

/-- What the library gives is passed on exactly when it gives something. -/
theorem liftWallet_eq_ok_iff {α : Type} {outcome : Except WalletError α} {value : α} :
    liftWallet outcome = .ok value ↔ outcome = .ok value := by
  cases outcome <;> simp [liftWallet]

/-- The failure of the library is passed on exactly when it fails. -/
theorem liftWallet_eq_error_iff {α : Type} {outcome : Except WalletError α} {failure : Failure} :
    liftWallet outcome = .error failure ↔
      ∃ error, outcome = .error error ∧ failure = .wallet error := by
  cases outcome <;> simp [liftWallet, eq_comm]

namespace SigningJob

variable {job : SigningJob} {settings : Settings}

/-- A job prints a text exactly when each of its checks passes. -/
theorem run_eq_ok_iff {text : String} :
    job.run settings = .ok text ↔ ∃ pair signed,
      KeyPair.ofSeedHex job.signing.seed = .ok pair ∧ (∀ number ∈ job.numbers, 0 ≤ number.2) ∧
        job.built settings pair = .ok signed ∧ text = job.shown signed ++ "\n" := by
  simp only [run, SigningOptions.keyPair, Except.bind_eq_ok_iff, Except.mapError_eq_ok_iff,
    refuseNegative_eq_ok_iff, liftWallet_eq_ok_iff]
  constructor
  · rintro ⟨pair, hseed, -, hnumbers, signed, hbuilt, htext⟩
    exact ⟨pair, signed, hseed, hnumbers, hbuilt, (Except.ok.inj htext).symm⟩
  · rintro ⟨pair, signed, hseed, hnumbers, hbuilt, rfl⟩
    exact ⟨pair, hseed, (), hnumbers, signed, hbuilt, rfl⟩

/-- A job fails for the first of its checks that does not pass. -/
theorem run_eq_error_iff {failure : Failure} :
    job.run settings = .error failure ↔
      (∃ error, KeyPair.ofSeedHex job.signing.seed = .error error ∧ failure = .signerSeed error) ∨
      ∃ pair, KeyPair.ofSeedHex job.signing.seed = .ok pair ∧
        ((∃ number, firstNegative? job.numbers = some number ∧
          failure = .wallet (.negative number)) ∨
        (∀ number ∈ job.numbers, 0 ≤ number.2) ∧
          ∃ error, job.built settings pair = .error error ∧ failure = .wallet error) := by
  simp only [run, SigningOptions.keyPair, Except.bind_eq_error_iff, Except.mapError_eq_ok_iff,
    Except.mapError_eq_error_iff, refuseNegative_eq_ok_iff, refuseNegative_eq_error_iff,
    liftWallet_eq_error_iff, Except.pure_ne_error, and_false, exists_false, or_false, exists_const]

/-- How a job comes out if nothing that is built breaks its line. -/
theorem comesOut_run
    (hline : ∀ pair signed, job.built settings pair = .ok signed → '\n' ∉ signed.text.toList) :
    job.ComesOut settings (job.run settings) where
  prints_iff _ := run_eq_ok_iff
  single_line := by
    intro text htext
    obtain ⟨pair, signed, -, -, hbuilt, rfl⟩ := run_eq_ok_iff.mp htext
    refine ⟨job.shown signed, rfl, ?_⟩
    rw [shown]
    split
    · exact SignedText.newline_notMem_submissionBody (hline pair signed hbuilt)
    · exact hline pair signed hbuilt
  fails_iff _ := run_eq_error_iff

end SigningJob

/-- Nothing that a command builds breaks its line. -/
theorem Command.newline_notMem_built {command : Command} {job : SigningJob}
    (h : command.job? = some job) {settings : Settings} {pair : KeyPair} {signed : SignedText}
    (hbuilt : job.built settings pair = .ok signed) : '\n' ∉ signed.text.toList := by
  cases command with
  | keygen => contradiction
  | address seed => contradiction
  | transfer signing recipient amount =>
    obtain rfl := Option.some.inj h
    exact Signer.newline_notMem_buildTransfer hbuilt
  | createAsset signing asset =>
    obtain rfl := Option.some.inj h
    exact Signer.newline_notMem_buildAssetAction hbuilt
  | assetAction signing asset action owner otherAsset components =>
    obtain rfl := Option.some.inj h
    exact Signer.newline_notMem_buildAssetAction hbuilt

/-- Two texts are indented as one. -/
theorem indented_append (front back : String) :
    indented (front ++ back) = indented front ++ indented back := by
  rw [indented, String.toList_append, List.flatMap_append, String.ofList_append, indented, indented]

/-- On a malformed settings file the report is that of the wallet, with the words of the reader. -/
theorem Failure.report_append_detail (path document : String) (readerWords : String → String) :
    (settings path (.malformed document)).report ++
        (settings path (.malformed document)).detail readerWords =
      withCause ("loading " ++ path) (WalletError.config (readerWords document)).message := by
  have hhead : "config error: " = "config error" ++ ": " := by decide
  have hmessage : (WalletError.config (readerWords document)).message =
      "config error" ++ (": " ++ readerWords document) := by
    rw [← String.append_assoc, ← hhead]
    rfl
  rw [hmessage, withCause, indented_append, ← String.append_assoc]
  rfl

section

variable {σ : Type} {source : Entropy σ} {state : σ} {environment : String → Option String}
  {words : List String} {invocation : Invocation} {files : String → Except ReadFault (List UInt8)}

/-- A command line that is understood prints what its invocation gives. -/
theorem execute_eq_printed (h : parse environment words = .ok (.run invocation)) {text : String}
    (hrun : invocation.run source state (files (invocation.config.getD "")) = .ok text) :
    execute source state environment files words = .printed text := by
  simp only [execute, h, hrun]

/-- A command line that is understood fails as its invocation does. -/
theorem execute_eq_failed (h : parse environment words = .ok (.run invocation)) {failure : Failure}
    (hrun : invocation.run source state (files (invocation.config.getD "")) = .error failure) :
    execute source state environment files words = .failed failure := by
  simp only [execute, h, hrun]

end

namespace Invocation

variable {σ : Type} {source : Entropy σ} {state : σ} {invocation : Invocation}
  {contents : Except ReadFault (List UInt8)} {settings : Settings}

/-- Settings that are not there stop every command. -/
theorem run_of_settings_eq_error {failure : Failure}
    (h : invocation.settings contents = .error failure) :
    invocation.run source state contents = .error failure := by
  rw [run, h, Except.error_bind]

/-- Settings that name no log format stop every command. -/
theorem run_of_ofName_eq_error (hsettings : invocation.settings contents = .ok settings)
    {reason : String} (h : LogFormat.ofName settings.logFormat = .error reason) :
    invocation.run source state contents = .error (.wallet (.config reason)) := by
  rw [run, hsettings, Except.ok_bind, Settings.namedLogFormat, h]
  rfl

/-- With settings that are in order the command is run. -/
theorem run_of_ofName_eq_ok (hsettings : invocation.settings contents = .ok settings)
    {format : LogFormat} (h : LogFormat.ofName settings.logFormat = .ok format) :
    invocation.run source state contents = invocation.command.run source state settings := by
  rw [run, hsettings, Except.ok_bind, Settings.namedLogFormat, h]
  rfl

/-- The command line signs what the library signs, or prints nothing. Settings that cannot be loaded
or that name no log format stop every command with that failure. Under settings that are in order a
command that signs comes out as its job does: it prints the one line that the library builds for the
key pair of the seed, or fails for the first check that does not pass. What is printed then stands
on standard output as it is, and a failure leaves nothing there but is reported on standard error,
where a malformed settings file is reported in the words of its reader. -/
theorem signs_or_prints_nothing {σ : Type} (source : Entropy σ) (state : σ)
    (invocation : Invocation) (contents : Except ReadFault (List UInt8)) :
    (∀ failure, invocation.settings contents = .error failure →
      invocation.run source state contents = .error failure) ∧
    (∀ settings reason, invocation.settings contents = .ok settings →
      LogFormat.ofName settings.logFormat = .error reason →
        invocation.run source state contents = .error (.wallet (.config reason))) ∧
    (∀ settings format job, invocation.settings contents = .ok settings →
      LogFormat.ofName settings.logFormat = .ok format → invocation.command.job? = some job →
        job.ComesOut settings (invocation.run source state contents)) ∧
    ∀ environment words files, parse environment words = .ok (.run invocation) →
      files (invocation.config.getD "") = contents →
        (∀ text, invocation.run source state contents = .ok text →
          (execute source state environment files words).standardOutput = text ∧
          (execute source state environment files words).exitCode = 0) ∧
        ∀ failure, invocation.run source state contents = .error failure →
          (execute source state environment files words).standardOutput = "" ∧
          (∀ readerWords, (execute source state environment files words).errorReport readerWords =
            "Error: " ++ failure.report ++ failure.detail readerWords ++ "\n") ∧
          (∀ path document, failure = .settings path (.malformed document) → ∀ readerWords,
            (execute source state environment files words).errorReport readerWords =
              "Error: " ++ withCause ("loading " ++ path)
                (WalletError.config (readerWords document)).message ++ "\n") ∧
          (execute source state environment files words).exitCode = 1 := by
  refine ⟨?_, ?_, ?_, ?_⟩
  · intro failure h
    exact run_of_settings_eq_error h
  · intro settings reason hsettings h
    exact run_of_ofName_eq_error hsettings h
  · intro settings format job hsettings hformat hjob
    rw [run_of_ofName_eq_ok hsettings hformat, Command.run_eq_of_job? source state settings hjob]
    exact SigningJob.comesOut_run fun pair signed => Command.newline_notMem_built hjob
  · rintro environment words files hparse rfl
    constructor
    · intro text hrun
      rw [execute_eq_printed hparse hrun]
      exact ⟨rfl, rfl⟩
    · intro failure hrun
      rw [execute_eq_failed hparse hrun]
      refine ⟨rfl, fun readerWords => rfl, ?_, rfl⟩
      rintro path document rfl readerWords
      rw [← Failure.report_append_detail, ← String.append_assoc]
      rfl

end Invocation

end CommandLine

/-- The text of a seed of ones. -/
def KeyPair.onesText : String :=
  "0101010101010101010101010101010101010101010101010101010101010101"

/-- It is read as the key pair of that seed. -/
theorem KeyPair.ofSeedHex_onesText : ofSeedHex onesText = .ok ones :=
  ofSeedHex_eq_ok_iff.mpr rfl

namespace CommandLine

/-- The words of a transfer by the key pair of ones. -/
def transferWords (recipient amount fee nonce : String) : List String :=
  ["transfer", "--seed", KeyPair.onesText, "--to", recipient, "--amount", amount, "--fee", fee,
    "--nonce", nonce, "--envelope"]

/-- How these words end where no file can be read. -/
def transferOutcome (recipient amount fee nonce : String) : Outcome :=
  execute SeedCycle.source (.ofList []) (fun _ => none) (fun _ => .error .notFound)
    (transferWords recipient amount fee nonce)

/-- How they end where a settings file is named first and has these contents. -/
def configuredOutcome (path : String) (contents : Except ReadFault (List UInt8))
    (recipient amount fee nonce : String) : Outcome :=
  execute SeedCycle.source (.ofList []) (fun _ => none) (fun _ => contents)
    ("--config" :: path :: transferWords recipient amount fee nonce)

/-- What the words of a transfer ask for. -/
def transferInvocation (recipient : String) (amount fee nonce : Int64) : Invocation :=
  ⟨none, none, .transfer ⟨KeyPair.onesText, some fee, nonce, none, none, none, true⟩ recipient
    amount⟩

/-- The words of a transfer with three negative numbers, after those that name one of two files. -/
theorem parse_configured {path : String} (hpath : path = "absent" ∨ path = "file") :
    parse (fun _ => none) ("--config" :: path :: transferWords "zz" "-1" "-2" "-3") =
      .ok (.run { transferInvocation "zz" (-1) (-2) (-3) with config := some path }) := by
  rcases hpath with rfl | rfl <;> rfl

/-- A settings file that names an unknown log format. -/
def unknownFormatFile : List UInt8 := utf8 "log_format = \"xml\""

/-- It is a settings file in order but for the name. -/
theorem ofFile_unknownFormatFile :
    Settings.ofFile "file" (.ok unknownFormatFile) = .ok { logFormat := "xml" } := by
  decide +kernel

/-- The name is unknown. -/
theorem ofName_xml : LogFormat.ofName "xml" = .error "unknown log format: xml" := by
  rfl

/-- A settings file with a number below zero. -/
def negativeChainFile : List UInt8 := utf8 "chain_id = -1"

/-- It is refused. -/
theorem ofFile_negativeChainFile :
    Settings.ofFile "file" (.ok negativeChainFile) = .error (.malformed "chain_id = -1") := by
  decide +kernel

/-- A transfer with three negative numbers to no account is refused for its amount and leaves
nothing on standard output; a transfer to the freely spelled account prints one line; and without
settings, or with settings that are malformed or name an unknown log format, neither is looked
at. -/
theorem Invocation.signs_or_prints_nothing_negative :
    ((transferOutcome "zz" "-1" "-2" "-3").standardOutput = "" ∧
      (∀ readerWords, (transferOutcome "zz" "-1" "-2" "-3").errorReport readerWords =
        "Error: invalid input: amount must not be negative, got -1\n") ∧
      (transferOutcome "zz" "-1" "-2" "-3").exitCode = 1) ∧
    (∃ line, (transferOutcome Address.spacedText "1" "2" "3").standardOutput = line ++ "\n" ∧
      '\n' ∉ line.toList) ∧
    (({ transferInvocation "zz" (-1) (-2) (-3) with config := some "absent" } : Invocation).run
        SeedCycle.source (.ofList []) (.error .notFound) =
          .error (.settings "absent" (.unreadable "absent" .notFound)) ∧
      ∀ readerWords,
        (configuredOutcome "absent" (.error .notFound) "zz" "-1" "-2" "-3").errorReport readerWords =
          "Error: loading absent\n\nCaused by:\n    config error: failed to read absent: " ++
            "No such file or directory (os error 2)\n") ∧
    (∀ readerWords,
      (configuredOutcome "file" (.ok negativeChainFile) "zz" "-1" "-2" "-3").errorReport readerWords =
        "Error: " ++ withCause "loading file"
          ("config error: " ++ readerWords "chain_id = -1") ++ "\n") ∧
    ({ transferInvocation "zz" (-1) (-2) (-3) with config := some "file" } : Invocation).run
      SeedCycle.source (.ofList []) (.ok unknownFormatFile) =
        .error (.wallet (.config "unknown log format: xml")) := by
  have hhuman : LogFormat.ofName Settings.default.logFormat = .ok .human := by
    rfl
  refine ⟨?_, ?_, ?_, ?_, ?_⟩
  · have hparse : parse (fun _ => none) (transferWords "zz" "-1" "-2" "-3") =
        .ok (.run (transferInvocation "zz" (-1) (-2) (-3))) := by
      rfl
    have htext : "Error: " ++ (Failure.wallet (.negative ("amount", -1))).report ++ "" ++ "\n" =
        "Error: invalid input: amount must not be negative, got -1\n" := by
      decide +kernel
    obtain ⟨-, -, hjob, hends⟩ := signs_or_prints_nothing SeedCycle.source (.ofList [])
      (transferInvocation "zz" (-1) (-2) (-3)) (.error .notFound)
    have hrun := ((hjob .default .human _ rfl hhuman rfl).fails_iff
      (.wallet (.negative ("amount", -1)))).mpr
        (Or.inr ⟨.ones, KeyPair.ofSeedHex_onesText, Or.inl ⟨_, rfl, rfl⟩⟩)
    obtain ⟨-, hfails⟩ := hends (fun _ => none) _ (fun _ => .error .notFound) hparse rfl
    obtain ⟨hempty, hreport, -, hcode⟩ := hfails _ hrun
    exact ⟨hempty, fun readerWords => (hreport readerWords).trans htext, hcode⟩
  · have hparse : parse (fun _ => none) (transferWords Address.spacedText "1" "2" "3") =
        .ok (.run (transferInvocation Address.spacedText 1 2 3)) := by
      rfl
    obtain ⟨-, -, hjob, hends⟩ := signs_or_prints_nothing SeedCycle.source (.ofList [])
      (transferInvocation Address.spacedText 1 2 3) (.error .notFound)
    have hcomes := hjob .default .human _ rfl hhuman rfl
    obtain ⟨signed, hbuilt⟩ : ∃ signed,
        KeyPair.ones.signer.buildTransfer Address.spacedText 1 2 3 .unscoped = .ok signed :=
      ⟨_, Signer.buildTransfer_eq_ok_iff.mpr
        ⟨_, _, Address.ofHex_eq_ok_iff.mpr Address.isSpelledBy_spacedText, rfl, rfl⟩⟩
    have hrun := (hcomes.prints_iff _).mpr
      ⟨.ones, signed, KeyPair.ofSeedHex_onesText, by decide, hbuilt, rfl⟩
    obtain ⟨line, hline, hnewline⟩ := hcomes.single_line _ hrun
    obtain ⟨hprints, -⟩ := hends (fun _ => none) _ (fun _ => .error .notFound) hparse rfl
    exact ⟨line, (hprints _ hrun).1.trans hline, hnewline⟩
  · obtain ⟨hsettings, -, -, hends⟩ := signs_or_prints_nothing SeedCycle.source (.ofList [])
      { transferInvocation "zz" (-1) (-2) (-3) with config := some "absent" } (.error .notFound)
    have htext : "Error: " ++ (Failure.settings "absent" (.unreadable "absent" .notFound)).report ++
        indented "" ++ "\n" =
          "Error: loading absent\n\nCaused by:\n    config error: failed to read absent: " ++
            "No such file or directory (os error 2)\n" := by
      decide +kernel
    have hrun := hsettings (.settings "absent" (.unreadable "absent" .notFound)) rfl
    obtain ⟨-, hfails⟩ := hends (fun _ => none) _ (fun _ => .error .notFound)
      (parse_configured (Or.inl rfl)) rfl
    obtain ⟨-, hreport, -⟩ := hfails _ hrun
    exact ⟨hrun, fun readerWords => (hreport readerWords).trans htext⟩
  · obtain ⟨hsettings, -, -, hends⟩ := signs_or_prints_nothing SeedCycle.source (.ofList [])
      { transferInvocation "zz" (-1) (-2) (-3) with config := some "file" } (.ok negativeChainFile)
    obtain ⟨-, hfails⟩ := hends (fun _ => none) _ (fun _ => .ok negativeChainFile)
      (parse_configured (Or.inr rfl)) rfl
    have hrun := hsettings (.settings "file" (.malformed "chain_id = -1")) (by
      rw [settings]
      exact Except.mapError_eq_error_iff.mpr ⟨_, ofFile_negativeChainFile, rfl⟩)
    obtain ⟨-, -, hmalformed, -⟩ := hfails _ hrun
    exact hmalformed "file" "chain_id = -1" rfl
  · obtain ⟨-, hformat, -, -⟩ := signs_or_prints_nothing SeedCycle.source (.ofList [])
      { transferInvocation "zz" (-1) (-2) (-3) with config := some "file" } (.ok unknownFormatFile)
    refine hformat { logFormat := "xml" } _ ?_ ofName_xml
    rw [settings]
    exact Except.mapError_eq_ok_iff.mpr ofFile_unknownFormatFile

end CommandLine

end OfflineSigner
