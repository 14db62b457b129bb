import GraphBroker.Config.Arguments
import GraphBroker.Config.Sources
import GraphBroker.Proofs.Json.Members

namespace GraphBroker

open Json Text

/-!
# Which source goes before which

A port on the command line goes before the variable for it, and the variable before the
document; variables for the credentials go before the document.  A variable counts if it is
set and not blank.  All sources are judged, even those that others go before, and the first
problem in the order document, variable for the port, identifier, credentials is reported.
-/

/-! ## Decimal numbers -/

namespace Text

/-- A text is a decimal number: digits, perhaps after a plus sign. -/
def IsDecimal (text : String) (value : Nat) : Prop :=
  ∃ digits : List Char,
    digits ≠ [] ∧ (∀ c ∈ digits, c.isDigit = true) ∧
      (text.toList = digits ∨ text.toList = '+' :: digits) ∧
      Nat.ofDigitChars 10 digits 0 = value

theorem le_ofDigitChars
    (digits : List Char)
    (value : Nat) :
    value ≤ Nat.ofDigitChars 10 digits value := by
  induction digits generalizing value with
  | nil =>
      exact Nat.le_refl value
  | cons c rest inductionHypothesis =>
      rw [Nat.ofDigitChars_cons]
      have further := inductionHypothesis (10 * value + (c.toNat - '0'.toNat))
      omega

/-- Reading stops at the first digit with which the number gets too large, and none makes it smaller. -/
theorem readDigits_eq_ok_iff
    {bound value number : Nat}
    (bounded : value ≤ bound)
    {digits : List Char} :
    readDigits bound value digits = .ok number ↔
      (∀ c ∈ digits, c.isDigit = true) ∧ Nat.ofDigitChars 10 digits value = number ∧
        number ≤ bound := by
  induction digits generalizing value with
  | nil =>
      simp only [readDigits, Except.ok.injEq, Nat.ofDigitChars_nil]
      constructor
      · rintro rfl
        exact ⟨nofun, rfl, bounded⟩
      · exact fun held => held.2.1
  | cons c rest inductionHypothesis =>
      rw [readDigits, Nat.ofDigitChars_cons, List.forall_mem_cons, Nat.mul_comm 10 value]
      by_cases digit : c.isDigit = true
      · simp only [digit, if_true, true_and]
        split
        · next larger =>
            have grown := le_ofDigitChars rest (value * 10 + (c.toNat - '0'.toNat))
            constructor
            · nofun
            · rintro ⟨_, rfl, _⟩
              omega
        · next within =>
            exact inductionHypothesis (Nat.le_of_not_lt within)
      · simp [digit]

/-- A number is read of its decimal digits when it is within the bound. -/
theorem readNatural_eq_ok_iff
    {bound number : Nat}
    {text : String} :
    readNatural bound text = .ok number ↔ IsDecimal text number ∧ number ≤ bound := by
  have read {digits : List Char} := @readDigits_eq_ok_iff bound 0 number (Nat.zero_le bound) digits
  rw [readNatural, IsDecimal]
  split
  · next nothing =>
      refine ⟨nofun, ?_⟩
      rintro ⟨⟨digits, some, _, same | same, _⟩, _⟩ <;> simp_all
  · next sign =>
      refine ⟨nofun, ?_⟩
      rintro ⟨⟨digits, some, all, same | same, _⟩, _⟩
      · rw [sign] at same
        exact absurd (all '+' (by simp [← same])) (by decide)
      · rw [sign] at same
        exact absurd (List.cons.inj same).2.symm some
  · next digits notAlone signed =>
      rw [read, signed]
      constructor
      · rintro ⟨all, same, within⟩
        exact ⟨⟨digits, notAlone, all, Or.inr rfl, same⟩, within⟩
      · rintro ⟨⟨others, some, all, same | same, worth⟩, within⟩
        · exact absurd (all '+' (by simp [← same])) (by decide)
        · cases same
          exact ⟨all, worth, within⟩
  · next given notAlone unsigned =>
      rw [read]
      constructor
      · rintro ⟨all, same, within⟩
        exact ⟨⟨text.toList, given, all, Or.inl rfl, same⟩, within⟩
      · rintro ⟨⟨digits, some, all, same | same, worth⟩, within⟩
        · rw [same]
          exact ⟨all, worth, within⟩
        · exact absurd same (unsigned digits)

end Text

namespace Config

/-! ## Ports -/

namespace Port

/-- A text is a port if it is a decimal number in range once it is trimmed. -/
theorem parse_eq_ok_iff
    {text : String}
    {port : UInt16} :
    parse text = .ok port ↔ IsDecimal (trim text) port.toNat := by
  rw [parse, map_eq_ok_iff]
  constructor
  · rintro ⟨number, read, rfl⟩
    obtain ⟨decimal, within⟩ := readNatural_eq_ok_iff.mp read
    rwa [UInt16.toNat_ofNat_of_lt' (by simp [UInt16.size]; omega)]
  · intro decimal
    have within : port.toNat ≤ 65535 := Nat.le_of_lt_succ port.toNat_lt
    exact ⟨port.toNat, readNatural_eq_ok_iff.mpr ⟨decimal, within⟩, UInt16.ofNat_toNat⟩

example : parse " +8080\n" = .ok 8080 := by
  decide

/-- A text is refused as a port exactly when it states no number of a port. -/
theorem parse_fails_iff
    {text : String} :
    (∃ reason, parse text = .error reason) ↔ ∀ number < 65536, ¬ IsDecimal (trim text) number := by
  constructor
  · rintro ⟨reason, failed⟩ number small decimal
    have same : (UInt16.ofNat number).toNat = number :=
      UInt16.toNat_ofNat_of_lt' (by simpa [UInt16.size] using small)
    rw [parse_eq_ok_iff.mpr (same.symm ▸ decimal)] at failed
    cases failed
  · intro unfit
    cases outcome : parse text with
    | error reason => exact ⟨reason, rfl⟩
    | ok port => exact absurd (parse_eq_ok_iff.mp outcome) (unfit _ port.toNat_lt)

/-- What stands in a document for its port says which port. -/
inductive Stated : Option Document → UInt16 → Prop where
  | number {value : UInt64} {port : UInt16}
      (same : value.toNat = port.toNat) :
      Stated (some (.number (.natural value))) port
  | text {written : String} {port : UInt16}
      (decimal : IsDecimal (trim written) port.toNat) :
      Stated (some (.text written)) port
  | absent :
      Stated none 8080

/-- A port that is read of a document is one that the document states. -/
theorem stated_of_read
    {document : Document}
    {port : UInt16}
    (taken : read document = .ok port) :
    Stated (some document) port := by
  unfold read at taken
  split at taken
  · next value =>
      split at taken
      · next small =>
          cases taken
          exact .number (Nat.mod_eq_of_lt small).symm
      · cases taken
  · next written =>
      split at taken
      · next found parsed =>
          cases taken
          exact .text (parse_eq_ok_iff.mp parsed)
      · cases taken
  · split at taken <;> cases taken

end Port

/-! ## Variables -/

namespace Environment

/-- A variable is set to a text that is not blank. -/
def Gives (environment : Environment) (name value : String) : Prop :=
  environment name = some value ∧ ¬ IsBlank value

/-- A text is that of the variable if it gives one, and otherwise that of the document. -/
inductive Overrides (environment : Environment) (name own : String) : String → Prop where
  | variable {value : String}
      (gives : environment.Gives name value) :
      Overrides environment name own value
  | document
      (silent : ∀ value, ¬ environment.Gives name value) :
      Overrides environment name own own

/-- If the variable for the port gives a text, it is a decimal number in range. -/
def PortSound (environment : Environment) : Prop :=
  ∀ value, environment.Gives "PORT" value → ∃ number < 65536, IsDecimal (trim value) number

variable {environment : Environment} {name : String}

/-- A variable has a value exactly when the environment gives it one. -/
theorem value?_eq_some_iff
    {value : String} :
    environment.value? name = some value ↔ environment.Gives name value := by
  simp [value?, Gives, Option.filter_eq_some_iff]

/-- A variable has no value exactly when the environment gives it none. -/
theorem value?_eq_none_iff :
    environment.value? name = none ↔ ∀ value, ¬ environment.Gives name value := by
  simp [← value?_eq_some_iff, Option.eq_none_iff_forall_ne_some]

/-- A field ends up with the variable's value, or its own without one. -/
theorem overrides_iff
    {own text : String} :
    environment.Overrides name own text ↔ (environment.value? name).getD own = text := by
  constructor
  · rintro (gives | silent)
    · rw [value?_eq_some_iff.mpr gives]
      rfl
    · rw [value?_eq_none_iff.mpr silent]
      rfl
  · rintro rfl
    cases found : environment.value? name with
    | some value => exact .variable (value?_eq_some_iff.mp found)
    | none => exact .document (value?_eq_none_iff.mp found)

/-- There is always a text with which a field ends up. -/
theorem exists_overrides
    (environment : Environment)
    (name own : String) :
    ∃ text, environment.Overrides name own text :=
  ⟨_, overrides_iff.mpr rfl⟩

end Environment

/-- The port from all sources. -/
inductive Prevails (environment : Environment) (flag : Option UInt16) (own : UInt16) :
    UInt16 → Prop where
  | flag {port : UInt16}
      (given : flag = some port) :
      Prevails environment flag own port
  | variable {value : String} {port : UInt16}
      (unset : flag = none)
      (gives : environment.Gives "PORT" value)
      (decimal : IsDecimal (trim value) port.toNat) :
      Prevails environment flag own port
  | document
      (unset : flag = none)
      (silent : ∀ value, ¬ environment.Gives "PORT" value) :
      Prevails environment flag own own

namespace Settings

/-- Settings come of a document, the environment and a port on the command line. -/
structure Merges (document : Settings) (environment : Environment) (flag : Option UInt16)
    (settings : Settings) : Prop where
  port : Prevails environment flag document.port settings.port
  username :
    environment.Overrides "SECURITY_USER_NAME" document.brokerUsername settings.brokerUsername
  password :
    environment.Overrides "SECURITY_USER_PASSWORD" document.brokerPassword settings.brokerPassword
  others :
    settings =
      { document with
        port := settings.port
        brokerUsername := settings.brokerUsername
        brokerPassword := settings.brokerPassword }

/-- What has to hold of a document and the environment beyond their being readable. -/
structure Sufficient (document : Settings) (environment : Environment) : Prop where
  port : environment.PortSound
  brokerId : ¬ IsBlank document.brokerId
  username :
    ∃ username ≠ "", environment.Overrides "SECURITY_USER_NAME" document.brokerUsername username
  password :
    ∃ password ≠ "", environment.Overrides "SECURITY_USER_PASSWORD" document.brokerPassword password

/-- The first problem of the sources, in the order in which they are judged. -/
inductive FirstProblem
    (path : String)
    (contents : Except Host.FileError (List UInt8))
    (environment : Environment) :
    Error → Prop where
  | document {error : Error}
      (unread : ofDocument path contents = .error error) :
      FirstProblem path contents environment error
  | port {document : Settings} {value : String} {reason : NaturalError}
      (read : ofDocument path contents = .ok document)
      (gives : environment.Gives "PORT" value)
      (unfit : ∀ number < 65536, ¬ IsDecimal (trim value) number)
      (reported : Port.parse value = .error reason) :
      FirstProblem path contents environment (.wrongPort value reason)
  | brokerId {document : Settings}
      (read : ofDocument path contents = .ok document)
      (sound : environment.PortSound)
      (blank : IsBlank document.brokerId) :
      FirstProblem path contents environment .blankBrokerId
  | credentials {document : Settings}
      (read : ofDocument path contents = .ok document)
      (sound : environment.PortSound)
      (shows : ¬ IsBlank document.brokerId)
      (lacking :
        environment.Overrides "SECURITY_USER_NAME" document.brokerUsername "" ∨
          environment.Overrides "SECURITY_USER_PASSWORD" document.brokerPassword "") :
      FirstProblem path contents environment .missingCredentials

variable {path : String} {contents : Except Host.FileError (List UInt8)}
variable {environment : Environment} {flag : Option UInt16} {document : Settings}

/-- The settings before they are judged, with the port that the variable gives. -/
def merged
    (document : Settings)
    (environment : Environment)
    (fromVariable flag : Option UInt16) :
    Settings :=
  { document with
    port := flag.getD (fromVariable.getD document.port)
    brokerUsername := (environment.value? Environment.username).getD document.brokerUsername
    brokerPassword := (environment.value? Environment.password).getD document.brokerPassword }

@[simp]
theorem merged_brokerId
    (fromVariable : Option UInt16) :
    (document.merged environment fromVariable flag).brokerId = document.brokerId :=
  rfl

/-- With a document and the port's variable read, what is left is to check the merged settings. -/
theorem resolve_of_read
    (read : ofDocument path contents = .ok document)
    {fromVariable : Option UInt16}
    (asked : portVariable environment = .ok fromVariable) :
    resolve path contents environment flag =
      (document.merged environment fromVariable flag).validate := by
  have next : document.withEnvironment environment =
      .ok (document.merged environment fromVariable none) := by
    rw [withEnvironment, asked]
    rfl
  rw [resolve, read]
  change (document.withEnvironment environment >>= fun settings =>
    (settings.withPort flag).validate) = _
  rw [next]
  rfl

/-- The variable for the port is none, or a port. -/
theorem portVariable_of_sound
    (sound : environment.PortSound) :
    ∃ fromVariable, portVariable environment = .ok fromVariable ∧
      ∀ document flag, Prevails environment flag document.port
        (merged document environment fromVariable flag).port := by
  unfold portVariable merged
  cases given : environment.value? Environment.port with
  | none =>
      refine ⟨none, rfl, fun document flag => ?_⟩
      cases flag with
      | some port => exact .flag rfl
      | none => exact .document rfl (Environment.value?_eq_none_iff.mp given)
  | some value =>
      have gives := Environment.value?_eq_some_iff.mp given
      obtain ⟨number, small, decimal⟩ := sound value gives
      have same : (UInt16.ofNat number).toNat = number :=
        UInt16.toNat_ofNat_of_lt' (by simpa [UInt16.size] using small)
      have parsed : Port.parse value = .ok (UInt16.ofNat number) :=
        Port.parse_eq_ok_iff.mpr (same.symm ▸ decimal)
      refine ⟨some (UInt16.ofNat number), by simp only [parsed], fun document flag => ?_⟩
      cases flag with
      | some port => exact .flag rfl
      | none => exact .variable rfl gives (same.symm ▸ decimal)

/-- Merged settings take each field from where it has precedence. -/
theorem merges_merged
    {fromVariable : Option UInt16}
    (prevails : Prevails environment flag document.port
      (document.merged environment fromVariable flag).port) :
    document.Merges environment flag (document.merged environment fromVariable flag) where
  port := prevails
  username := Environment.overrides_iff.mpr rfl
  password := Environment.overrides_iff.mpr rfl
  others := rfl

/-- Sources without a problem are merged. -/
theorem resolve_of_sufficient
    (read : ofDocument path contents = .ok document)
    (sufficient : document.Sufficient environment) :
    ∃ settings, resolve path contents environment flag = .ok settings ∧
      document.Merges environment flag settings := by
  obtain ⟨fromVariable, asked, prevails⟩ := portVariable_of_sound sufficient.port
  obtain ⟨username, named, ofUsername⟩ := sufficient.username
  obtain ⟨password, secured, ofPassword⟩ := sufficient.password
  have complete : ¬ ((document.merged environment fromVariable flag).brokerUsername.isEmpty = true ∨
      (document.merged environment fromVariable flag).brokerPassword.isEmpty = true) := by
    simp only [String.isEmpty_iff, merged, Environment.username, Environment.password]
    rw [Environment.overrides_iff.mp ofUsername, Environment.overrides_iff.mp ofPassword]
    exact not_or.mpr ⟨named, secured⟩
  refine ⟨document.merged environment fromVariable flag, ?_, merges_merged (prevails document flag)⟩
  rw [resolve_of_read read asked, validate, merged_brokerId, if_neg sufficient.brokerId,
    if_neg complete]

/-- The first problem is what is reported. -/
theorem FirstProblem.resolve_eq
    {error : Error}
    (problem : FirstProblem path contents environment error) :
    resolve path contents environment flag = .error error := by
  cases problem with
  | document unread =>
      rw [resolve, unread]
      rfl
  | @port document value reason read gives unfit reported =>
      have asked : portVariable environment = .error (.wrongPort value reason) := by
        rw [portVariable, Environment.port, Environment.value?_eq_some_iff.mpr gives]
        simp only [reported]
      rw [resolve, read]
      change (document.withEnvironment environment >>= fun settings =>
        (settings.withPort flag).validate) = _
      rw [withEnvironment, asked]
      rfl
  | brokerId read sound blank =>
      obtain ⟨fromVariable, asked, _⟩ := portVariable_of_sound sound
      rw [resolve_of_read read asked, validate, merged_brokerId, if_pos blank]
  | credentials read sound shows lacking =>
      obtain ⟨fromVariable, asked, _⟩ := portVariable_of_sound sound
      rw [resolve_of_read read asked, validate, merged_brokerId, if_neg shows, if_pos]
      simp only [String.isEmpty_iff, merged, Environment.username, Environment.password]
      exact lacking.imp Environment.overrides_iff.mp Environment.overrides_iff.mp

/-- The sources have a problem, or are sufficient. -/
theorem problem_or_sufficient
    (path : String)
    (contents : Except Host.FileError (List UInt8))
    (environment : Environment) :
    (∃ error, FirstProblem path contents environment error) ∨
      ∃ document, ofDocument path contents = .ok document ∧ document.Sufficient environment := by
  cases read : ofDocument path contents with
  | error error =>
      exact Or.inl ⟨error, .document read⟩
  | ok document =>
      by_cases sound : environment.PortSound
      · by_cases blank : IsBlank document.brokerId
        · exact Or.inl ⟨_, .brokerId read sound blank⟩
        · obtain ⟨username, named⟩ :=
            environment.exists_overrides "SECURITY_USER_NAME" document.brokerUsername
          obtain ⟨password, secured⟩ :=
            environment.exists_overrides "SECURITY_USER_PASSWORD" document.brokerPassword
          by_cases nameless : username = ""
          · exact Or.inl ⟨_, .credentials read sound blank (Or.inl (nameless ▸ named))⟩
          · by_cases unsecured : password = ""
            · exact Or.inl ⟨_, .credentials read sound blank (Or.inr (unsecured ▸ secured))⟩
            · exact Or.inr ⟨document, rfl, sound, blank, ⟨username, nameless, named⟩,
                ⟨password, unsecured, secured⟩⟩
      · simp only [Environment.PortSound, Classical.not_forall] at sound
        obtain ⟨value, gives, unfit⟩ := sound
        have unfit : ∀ number < 65536, ¬ IsDecimal (trim value) number :=
          fun number small decimal => unfit ⟨number, small, decimal⟩
        obtain ⟨reason, reported⟩ := Port.parse_fails_iff.mpr unfit
        exact Or.inl ⟨_, .port read gives unfit reported⟩

/-- The port of a document is what stands in it for the port. -/
theorem stated_of_document
    (read : ofDocument path contents = .ok document) :
    ∃ bytes text root, contents = .ok bytes ∧ Utf8.decode? bytes = some text ∧
      Source.ofText text = ⟨root, true⟩ ∧ Port.Stated (root.place? 0 "port") document.port := by
  unfold ofDocument at read
  split at read
  · cases read
  · next bytes =>
      split at read
      · cases read
      · next text decoded =>
          have taken := mapError_eq_ok_iff.mp read
          rw [Reader.jsonText, Reader.source] at taken
          split at taken
          · next value made =>
              split at taken
              · next ended =>
                  cases taken
                  obtain ⟨⟨port, _, _, _, _, _, _, _, _, ⟨⟩⟩, inner, rfl⟩ := map_eq_ok_iff.mp made
                  obtain ⟨given, absent, _⟩ := Shape.drawn_of_read (by decide) inner
                  refine ⟨bytes, text, (Source.ofText text).root, rfl, decoded, ?_, ?_⟩
                  · rw [← ended]
                  · cases stands : (Source.ofText text).root.place? 0 "port" with
                    | none =>
                        have standard : Port.standard = port := Option.some.inj (absent stands)
                        rw [← standard]
                        exact .absent
                    | some document =>
                        exact Port.stated_of_read (given document stands)
              · cases taken
          · cases taken

/--
The sources of the configuration have one precedence.  Settings come of them if and only if
the document is read, the variable for the port is a decimal number in range where it is set
and not blank, the identifier is not blank, and there is a name and a password.  Then the port
is that of the command line, or else of the variable, or else of the document, or else the
standard one; the name and the password are those of their variables where these are set and
not blank, as they are written there, and else those of the document; and everything else is
the document's.  Otherwise the first problem is reported.
-/
theorem resolve_precedence
    (arguments : Arguments)
    (contents : Except Host.FileError (List UInt8))
    (environment : Environment) :
    let document? := ofDocument arguments.config contents
    let settings? := resolve arguments.config contents environment arguments.port
    ((∃ settings, settings? = .ok settings) ↔
      ∃ document, document? = .ok document ∧ document.Sufficient environment) ∧
    (∀ settings, settings? = .ok settings →
      ∃ document, document? = .ok document ∧
        document.Merges environment arguments.port settings) ∧
    (∀ document, document? = .ok document →
      ∃ bytes text root, contents = .ok bytes ∧ Utf8.decode? bytes = some text ∧
        Source.ofText text = ⟨root, true⟩ ∧ Port.Stated (root.place? 0 "port") document.port) ∧
    ∀ error, settings? = .error error ↔
      FirstProblem arguments.config contents environment error := by
  intro document? settings?
  have outcome := problem_or_sufficient arguments.config contents environment
  refine ⟨⟨?_, ?_⟩, ?_, fun document read => stated_of_document read, fun error => ⟨?_, ?_⟩⟩
  · rintro ⟨settings, resolved⟩
    refine outcome.resolve_left ?_
    rintro ⟨error, problem⟩
    cases resolved.symm.trans problem.resolve_eq
  · rintro ⟨document, read, sufficient⟩
    obtain ⟨settings, resolved, _⟩ := resolve_of_sufficient read sufficient
    exact ⟨settings, resolved⟩
  · intro settings resolved
    rcases outcome with ⟨error, problem⟩ | ⟨document, read, sufficient⟩
    · cases resolved.symm.trans problem.resolve_eq
    · obtain ⟨others, same, merges⟩ := resolve_of_sufficient read sufficient
      cases resolved.symm.trans same
      exact ⟨document, read, merges⟩
  · intro failed
    rcases outcome with ⟨other, problem⟩ | ⟨document, read, sufficient⟩
    · cases failed.symm.trans problem.resolve_eq
      exact problem
    · obtain ⟨settings, resolved, _⟩ := resolve_of_sufficient read sufficient
      cases failed.symm.trans resolved
  · exact fun problem => problem.resolve_eq

end Settings

end Config

end GraphBroker
