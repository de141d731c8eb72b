/-!
# Codes of faults

Every fault carries a code.  The code fixes its number, its category, whether the user caused it,
and how severe it is.
-/

namespace Gradebook

inductive FaultCode where
  | tooFewTokens
  | invalidStatus
  | invalidAmount
  | noStudentSelected
  | studentNotFound
  | homeworkNotFound
  | invalidInput
  | storageError
  | storageUnavailable
  | serializationError
  | deserializationError
  | configurationError
  | internalError
deriving DecidableEq, Repr

inductive Severity where
  /-- Something the user typed. -/
  | low
  /-- Storage or configuration that the user can mend. -/
  | medium
  /-- A defect of the program. -/
  | high
deriving DecidableEq, Repr

namespace Severity

def name : Severity → String
  | low => "low"
  | medium => "medium"
  | high => "high"

def ofName? : String → Option Severity
  | "low" => some low
  | "medium" => some medium
  | "high" => some high
  | _ => none

/-- The level and text under which a fault of this severity is logged. -/
def logLine : Severity → String
  | low => "DEBUG Rejected input"
  | medium => "WARN Operational error"
  | high => "ERROR Internal error"

end Severity

namespace FaultCode

def all : List FaultCode :=
  [tooFewTokens, invalidStatus, invalidAmount, noStudentSelected, studentNotFound,
    homeworkNotFound, invalidInput, storageError, storageUnavailable, serializationError,
    deserializationError, configurationError, internalError]

def name : FaultCode → String
  | tooFewTokens => "TooFewTokens"
  | invalidStatus => "InvalidStatus"
  | invalidAmount => "InvalidAmount"
  | noStudentSelected => "NoStudentSelected"
  | studentNotFound => "StudentNotFound"
  | homeworkNotFound => "HomeworkNotFound"
  | invalidInput => "InvalidInput"
  | storageError => "StorageError"
  | storageUnavailable => "StorageUnavailable"
  | serializationError => "SerializationError"
  | deserializationError => "DeserializationError"
  | configurationError => "ConfigurationError"
  | internalError => "InternalError"

/-- The name of a code where it is stored or sent. -/
def wireName : FaultCode → String
  | tooFewTokens => "TOO_FEW_TOKENS"
  | invalidStatus => "INVALID_STATUS"
  | invalidAmount => "INVALID_AMOUNT"
  | noStudentSelected => "NO_STUDENT_SELECTED"
  | studentNotFound => "STUDENT_NOT_FOUND"
  | homeworkNotFound => "HOMEWORK_NOT_FOUND"
  | invalidInput => "INVALID_INPUT"
  | storageError => "STORAGE_ERROR"
  | storageUnavailable => "STORAGE_UNAVAILABLE"
  | serializationError => "SERIALIZATION_ERROR"
  | deserializationError => "DESERIALIZATION_ERROR"
  | configurationError => "CONFIGURATION_ERROR"
  | internalError => "INTERNAL_ERROR"

def ofWireName? (s : String) : Option FaultCode :=
  all.find? (·.wireName = s)

def number : FaultCode → Nat
  | tooFewTokens => 1000
  | invalidStatus => 1001
  | invalidAmount => 1002
  | noStudentSelected => 1100
  | studentNotFound => 1101
  | homeworkNotFound => 1102
  | invalidInput => 1103
  | storageError => 2000
  | storageUnavailable => 2001
  | serializationError => 2200
  | deserializationError => 2201
  | configurationError => 5000
  | internalError => 9000

/-- The category of a code, read off its number. -/
def category (c : FaultCode) : String :=
  match c.number / 100 with
  | 10 => "command"
  | 11 => "ledger"
  | 20 => "storage"
  | 22 => "serialization"
  | 50 => "configuration"
  | 90 => "internal"
  | _ => "unknown"

def isUserError (c : FaultCode) : Bool :=
  1000 ≤ c.number && c.number ≤ 1199

def severity (c : FaultCode) : Severity :=
  if c.isUserError then .low
  else match c with
    | internalError => .high
    | _ => .medium

end FaultCode

end Gradebook
