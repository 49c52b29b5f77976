import TaskSieve.RateLimit.Bucket
import TaskSieve.Schema.Value
import TaskSieve.Web.Address

set_option autoImplicit false

/-! # Settings

How the service reaches the task server and how it behaves: the server's address and the token that
opens it, the limits on requests, retries and waiting times, and where saved filters are kept.
Settings are checked as a whole before anything runs; keys that no setting has are ignored. -/

namespace TaskSieve

/-- How much is logged. -/
inductive LogLevel where
  | debug
  | info
  | warning
  | error
  | critical
deriving DecidableEq, Repr

/-- The name of a level. -/
def LogLevel.name : LogLevel → String
  | debug => "DEBUG"
  | info => "INFO"
  | warning => "WARNING"
  | error => "ERROR"
  | critical => "CRITICAL"

/-- Every level. -/
def LogLevel.all : List LogLevel := [debug, info, warning, error, critical]

/-- The level with this name. -/
def LogLevel.ofName? (name : String) : Option LogLevel := LogLevel.all.find? (·.name == name)

/-- Validated settings. -/
structure Settings where
  token : String
  base : Web.Address
  logLevel : LogLevel
  configFile : Option String
  testsConnectivity : Bool
  limits : Limits
  retries : Nat
  backoffStart : Binary64
  userAgent : String
  connectTimeout : Binary64
  readTimeout : Binary64
  fallbackPageSize : Nat
  fallbackMaxPages : Nat
  savedFiltersPath : Option String
deriving DecidableEq, Repr

namespace Settings

open Schema
open Schema.Checked (complain)

/-! ## Keys -/

/-- The key of the token. -/
def tokenKey : String := "vikunja_api_token"

/-- The key of the server's address. -/
def baseKey : String := "vikunja_base_url"

/-- The key of the log level. -/
def logLevelKey : String := "log_level"

/-- The key of the settings file. -/
def configFileKey : String := "config_file"

/-- The key of the check at the start. -/
def testsConnectivityKey : String := "test_connectivity_on_startup"

/-- The key of the request rate. -/
def rpmKey : String := "rate_limit_rpm"

/-- The key of the burst size. -/
def burstKey : String := "rate_limit_burst"

/-- The key of the saved filters' file. -/
def savedFiltersPathKey : String := "saved_filters_path"

/-- Every key of a setting. -/
def keys : List String :=
  [tokenKey, baseKey, logLevelKey, configFileKey, testsConnectivityKey, rpmKey, burstKey,
    "http_retries", "http_backoff_start_seconds", "http_user_agent", "timeout_connect",
    "timeout_read", "fallback_page_size", "fallback_max_pages", savedFiltersPathKey]

/-! ## Reading -/

/-- Reads the name of a level. -/
def logLevelOf : Datum → Checked LogLevel
  | .text s =>
    match LogLevel.ofName? s with
    | some l => .valid l
    | none => complain .notLiteral
  | _ => complain .notLiteral

/-- Hosts that may be reached without encryption. -/
def localHosts : List Web.Host :=
  [.domain "localhost", .v4 (127 * 16777216 + 1), .v6 [0, 0, 0, 0, 0, 0, 0, 1]]

/-- Why an address without encryption is refused. -/
def insecureMessage : String := "URL must use HTTPS (plain HTTP is only allowed for localhost)"

/-- The longest address that is read, in bytes. -/
def longestAddress : Nat := 2083

/-- Reads the server's address, which is encrypted unless the server is on this machine. -/
def addressOf : Datum → Checked Web.Address
  | .text s =>
    if longestAddress < s.utf8ByteSize then complain .urlTooLong
    else match Web.Address.ofText s with
      | .error .form => complain .urlForm
      | .error .scheme => complain .urlScheme
      | .ok a =>
        if !a.secure && !localHosts.contains a.host then complain (.stated insecureMessage)
        else .valid a
  | _ => complain .notUrl

/-- Reads an integer between natural bounds. -/
def naturalWithin (low high : Nat) (d : Datum) : Checked Nat :=
  (integerWithin low high d).map Int.toNat

/-- Limits from a positive rate and a positive capacity. -/
def limitsOf (rpm burst : { n : Nat // 0 < n }) : Limits :=
  ⟨rpm.val, burst.val, rpm.property, burst.property⟩

/-- A number of thousandths. -/
def thousandths (n : Nat) : Binary64 := .ofQuotient false n 1000

/-- How requests introduce themselves. -/
def defaultUserAgent : String := "vikunja-mcp/0.1.0"

/-- Reads settings. -/
def ofFields (fs : Fields) : Checked Settings :=
  Settings.mk <$> required fs tokenKey text
    <*> required fs baseKey addressOf
    <*> optional fs logLevelKey .info logLevelOf
    <*> optional fs configFileKey none (nullable text)
    <*> optional fs testsConnectivityKey false truth
    <*> (limitsOf <$> optional fs rpmKey ⟨300, by decide⟩ (positiveUpTo 10000)
      <*> optional fs burstKey ⟨20, by decide⟩ (positiveUpTo 100))
    <*> optional fs "http_retries" 2 (naturalWithin 0 5)
    <*> optional fs "http_backoff_start_seconds" (thousandths 250)
      (numberWithin (thousandths 100) (thousandths 10000))
    <*> optional fs "http_user_agent" defaultUserAgent text
    <*> optional fs "timeout_connect" (thousandths 5000)
      (numberWithin (thousandths 1000) (thousandths 30000))
    <*> optional fs "timeout_read" (thousandths 30000)
      (numberWithin (thousandths 5000) (thousandths 120000))
    <*> optional fs "fallback_page_size" 50 (naturalWithin 1 50)
    <*> optional fs "fallback_max_pages" 20 (naturalWithin 1 200)
    <*> optional fs savedFiltersPathKey none (nullable text)

/-- Reads settings from a record. -/
def ofDatum : Datum → Checked Settings := record ofFields

/-! ## Reporting -/

/-- What a report shows in place of the token. -/
def redactedToken : String := "***redacted***"

/-- Settings as a record, without the token. -/
def redacted (s : Settings) : Datum :=
  let orNull : Option String → Datum := Datum.ofOption .text
  .record [(tokenKey, .text redactedToken), (baseKey, .text s.base.text),
    (logLevelKey, .text s.logLevel.name), (configFileKey, orNull s.configFile),
    (testsConnectivityKey, .bool s.testsConnectivity), (rpmKey, .int s.limits.rpm),
    (burstKey, .int s.limits.burst), ("http_retries", .int s.retries),
    ("http_backoff_start_seconds", .num s.backoffStart), ("http_user_agent", .text s.userAgent),
    ("timeout_connect", .num s.connectTimeout), ("timeout_read", .num s.readTimeout),
    ("fallback_page_size", .int s.fallbackPageSize),
    ("fallback_max_pages", .int s.fallbackMaxPages),
    (savedFiltersPathKey, orNull s.savedFiltersPath)]

end Settings

end TaskSieve
