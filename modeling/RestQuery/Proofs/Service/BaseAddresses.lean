import RestQuery.Service.Config

/-!
# Base addresses

A configured port is meant for every host that has none of its own. Whether a host has one is
decided by a colon in it. That is right for names and IPv4 addresses, which contain no colon, and
for a host with a port behind it, which contains one. An IPv6 address is written in brackets and has
colons inside them: the port that is configured is never put behind it (`isBareLiteral`), and the
address without a port is what requests go to.
-/

namespace RestQuery

/-- A host without a port. -/
inductive BareHost where
  /-- A name or an IPv4 address. -/
  | name (label : String) (nonempty : label ≠ "") (noColon : ':' ∉ label.toList)
  /-- An IPv6 address, of which all that matters here is that it has colons. -/
  | literal (address : String) (hasColon : ':' ∈ address.toList)

namespace BareHost

/-- The host as it is written, with brackets around an IPv6 address. -/
def text : BareHost → String
  | name label _ _ => label
  | literal address _ => "[" ++ address ++ "]"

def isLiteral : BareHost → Bool
  | name _ _ _ => false
  | literal _ _ => true

theorem text_ne_empty (host : BareHost) : host.text ≠ "" := by
  cases host with
  | name label nonempty noColon => exact nonempty
  | literal address hasColon =>
      intro isEmpty
      simpa [text] using congrArg String.toList isEmpty

theorem colon_mem_text_iff (host : BareHost) : ':' ∈ host.text.toList ↔ host.isLiteral = true := by
  cases host with
  | name label nonempty noColon => simp [text, isLiteral, noColon]
  | literal address hasColon => simp [text, isLiteral, hasColon]

end BareHost

/-- A host as it is configured: by itself, or with a port of its own behind it. -/
structure ConfiguredHost where
  bare : BareHost
  ownPort : Option String
  areDigits : ∀ digits ∈ ownPort, digits ≠ "" ∧ ∀ digit ∈ digits.toList, digit.isDigit

namespace ConfiguredHost

def text (host : ConfiguredHost) : String :=
  match host.ownPort with
  | none => host.bare.text
  | some digits => host.bare.text ++ ":" ++ digits

/-- The host with a port: its own, or the given one if it has none. -/
def completed (host : ConfiguredHost) (port : UInt16) : String :=
  match host.ownPort with
  | none => host.text ++ ":" ++ port.toNat.repr
  | some _ => host.text

/-- An IPv6 address with nothing behind its closing bracket. -/
def isBareLiteral (host : ConfiguredHost) : Bool :=
  host.bare.isLiteral && host.ownPort.isNone

theorem text_ne_empty (host : ConfiguredHost) : host.text ≠ "" := by
  unfold text
  split
  · exact host.bare.text_ne_empty
  · intro isEmpty
    simpa using congrArg String.toList isEmpty

/-- There is a colon in brackets, or in front of a port. -/
theorem colon_mem_text_iff (host : ConfiguredHost) :
    ':' ∈ host.text.toList ↔ host.bare.isLiteral = true ∨ host.ownPort.isSome = true := by
  unfold text
  split
  · rename_i noPort
    simp [noPort, host.bare.colon_mem_text_iff]
  · rename_i digits hasPort
    simp [hasPort]

/-- The port is put behind every host that has none, except for an IPv6 address. -/
theorem authority_text (host : ConfiguredHost) (port : UInt16) :
    ServiceConfig.authority host.text (some port) =
      if host.isBareLiteral then host.text else host.completed port := by
  have colon := host.colon_mem_text_iff
  cases hasPort : host.ownPort with
  | some digits =>
      have contains : ':' ∈ host.text.toList := colon.mpr (by simp [hasPort])
      simp [ServiceConfig.authority, contains, completed, hasPort]
  | none =>
      cases isLiteral : host.bare.isLiteral with
      | true =>
          have contains : ':' ∈ host.text.toList := colon.mpr (Or.inl isLiteral)
          simp [ServiceConfig.authority, contains, isBareLiteral, hasPort, isLiteral]
      | false =>
          have lacks : ':' ∉ host.text.toList := by simp [colon, hasPort, isLiteral]
          simp [ServiceConfig.authority, lacks, completed, isBareLiteral, hasPort, isLiteral]

theorem completed_ne_text_of_isBareLiteral {host : ConfiguredHost}
    (isBareLiteral : host.isBareLiteral = true) (port : UInt16) :
    host.completed port ≠ host.text := by
  simp only [ConfiguredHost.isBareLiteral, Bool.and_eq_true, Option.isNone_iff_eq_none]
    at isBareLiteral
  intro same
  have sameLength := congrArg String.length same
  have colonLength : ":".length = 1 := rfl
  simp only [completed, isBareLiteral.2, String.length_append, colonLength] at sameLength
  omega

end ConfiguredHost

namespace ServiceConfig

/-- The base address with a host and its port in it. -/
def addressAt (config : ServiceConfig) (authority : String) : String :=
  config.protocol ++ "://" ++ authority ++ config.effectiveBasePath ++ "/" ++ config.database

theorem addressAt_inj {config : ServiceConfig} {left right : String}
    (same : config.addressAt left = config.addressAt right) : left = right := by
  have sameChars := congrArg String.toList same
  simp only [addressAt, String.toList_append, List.append_assoc, List.append_cancel_left_eq,
    List.append_cancel_right_eq] at sameChars
  exact String.toList_inj.mp sameChars

/-- What is not set counts as empty. -/
theorem nonEmpty?_eq (text : Option String) :
    nonEmpty? text = if text.getD "" = "" then none else some (text.getD "") := by
  cases text with
  | none => rfl
  | some text => by_cases isEmpty : text = "" <;> simp [nonEmpty?, Option.filter, isEmpty]

theorem effectiveBasePath_eq (config : ServiceConfig) :
    config.effectiveBasePath =
      if config.basePath.getD "" = "" then "/api" else config.basePath.getD "" := by
  rw [effectiveBasePath, nonEmpty?_eq]
  split <;> rfl

theorem baseUrl_of_firstHost {config : ServiceConfig} {host : ConfiguredHost}
    (noDsn : config.dsn.getD "" = "")
    (isFirst : config.hosts.bind (·.toList.head?) = some host.text) :
    config.baseUrl = .ok (config.addressAt (authority host.text config.port)) := by
  have noAddress : nonEmpty? config.dsn = none := by rw [nonEmpty?_eq, if_pos noDsn]
  have firstHost : config.firstHost? = some host.text := by
    rw [firstHost?, isFirst, nonEmpty?_eq]
    exact if_neg host.text_ne_empty
  simp only [baseUrl, noAddress, firstHost, addressAt]

/--
The base address of a configuration with a port holds the first host with a port, its own or the
configured one, except that an IPv6 address without a port of its own is left without any.
-/
theorem baseUrl_of_host {config : ServiceConfig} {host : ConfiguredHost} {port : UInt16}
    (noDsn : config.dsn.getD "" = "") (hasPort : config.port = some port)
    (isFirst : config.hosts.bind (·.toList.head?) = some host.text) :
    config.baseUrl = .ok (config.addressAt
        (if host.isBareLiteral then host.text else host.completed port)) ∧
      (config.baseUrl = .ok (config.addressAt (host.completed port)) ↔
        host.isBareLiteral = false) ∧
      config.effectiveBasePath =
        if config.basePath.getD "" = "" then "/api" else config.basePath.getD "" := by
  have address := baseUrl_of_firstHost noDsn isFirst
  rw [hasPort, host.authority_text] at address
  refine ⟨address, ?_, effectiveBasePath_eq config⟩
  rw [address]
  cases isBareLiteral : host.isBareLiteral with
  | false => simp
  | true =>
      simp only [↓reduceIte, Except.ok.injEq, Bool.true_eq_false, iff_false]
      intro same
      exact host.completed_ne_text_of_isBareLiteral isBareLiteral port (addressAt_inj same).symm

/-- An IPv6 host with a port of its own, and no prefix. -/
def literalWithPort : ConfiguredHost where
  bare := .literal "::1" (by decide)
  ownPort := some "9000"
  areDigits := by simp

theorem baseUrl_of_host_literalWithPort :
    let config := { default with
      hosts := some (.many ["[::1]:9000", "localhost"]), port := some 8080, basePath := some "" }
    config.dsn.getD "" = "" ∧ config.port = some 8080 ∧
      config.hosts.bind (·.toList.head?) = some literalWithPort.text ∧
      config.baseUrl = .ok "http://[::1]:9000/api/" := by
  intro config
  have noDsn : config.dsn.getD "" = "" := rfl
  have isFirst : config.hosts.bind (·.toList.head?) = some literalWithPort.text := by decide
  refine ⟨noDsn, rfl, isFirst, ?_⟩
  rw [(baseUrl_of_host noDsn rfl isFirst).1]
  rfl

/-- An IPv6 host without a port of its own. -/
def bareLiteral : ConfiguredHost where
  bare := .literal "::1" (by decide)
  ownPort := none
  areDigits := by simp

/-- The port that is configured does not reach an IPv6 host that has none. -/
theorem baseUrl_of_bareLiteral :
    let config := { default with
      hosts := some (.one "[::1]"), port := some 8080, database := "shop" }
    config.baseUrl = .ok "http://[::1]/api/shop" ∧
      config.addressAt (bareLiteral.completed 8080) = "http://[::1]:8080/api/shop" ∧
      ¬∀ (config : ServiceConfig) (host : ConfiguredHost) (port : UInt16),
        config.dsn.getD "" = "" → config.port = some port →
          config.hosts.bind (·.toList.head?) = some host.text →
            config.baseUrl = .ok (config.addressAt (host.completed port)) := by
  intro config
  have resolved : config.baseUrl = .ok "http://[::1]/api/shop" := rfl
  have called : config.addressAt (bareLiteral.completed 8080) = "http://[::1]:8080/api/shop" := by
    decide
  refine ⟨resolved, called, ?_⟩
  intro reaches
  have reached := reaches config bareLiteral 8080 rfl rfl (by decide)
  rw [resolved, called] at reached
  exact absurd (Except.ok.inj reached) (by decide)

end ServiceConfig

end RestQuery
