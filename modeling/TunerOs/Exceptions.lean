-- SUMMARY: Exceptions as data: the class that was raised, its text, and the formatting the texts use.
import Mathlib.Data.Nat.Notation

/-!
# Exceptions

Every fallible function of the backend returns `Except PyException`. The class
decides which `except` clause catches an exception; the text is what `str(error)`
gives, which the service stores and the recorder writes to a manifest. The C++
programs throw `CppException`.
-/

namespace TunerOs

/-- The exception classes the backend raises or catches. -/
inductive ExceptionClass where
  | typeError
  | valueError
  | keyError
  | indexError
  | overflowError
  | runtimeError
  | assertionError
  | osError
  | structError
  | rawCanRecordError
  | gatewayProtocolError
  | gatewayConnectionError
  | unknownCanFrameError
  | malformedCanFrameError
  | telemetrySchemaError
  | outOfOrderTelemetryError
  | unknownDiagnosticCodeError
  | diagnosticClearError
  | sessionFormatError
  | sessionVersionError
  | sessionIntegrityError
  | sessionDbcMismatchError
  | sessionRecordingError
  | investigationQueryError
  | investigationLimitError
deriving DecidableEq, Repr

/-- `except CanDecodeError` catches both of its subclasses. -/
def ExceptionClass.isCanDecodeError : ExceptionClass → Bool
  | .unknownCanFrameError | .malformedCanFrameError => true
  | _ => false

/-- A raised exception; `message` is the text of `str(error)`. -/
structure PyException where
  cls : ExceptionClass
  message : String
deriving DecidableEq, Repr

/-- `std::invalid_argument`, with the text of `what()`. -/
structure CppException where
  what : String
deriving DecidableEq, Repr

/-- `f"{n:0{width}X}"`: upper-case hexadecimal digits, padded with zeros. -/
def formatHex (width n : ℕ) : String :=
  let digits := (Nat.toDigits 16 n).map Char.toUpper
  String.ofList (List.replicate (width - digits.length) '0' ++ digits)

/-- One byte in the representation of a bytes literal with the given quote. -/
def byteText (quote : Char) (byte : UInt8) : String :=
  let c := Char.ofNat byte.toNat
  if c = quote ∨ c = '\\' then "\\" ++ c.toString
  else if byte = 9 then "\\t"
  else if byte = 10 then "\\n"
  else if byte = 13 then "\\r"
  else if 32 ≤ byte ∧ byte < 127 then c.toString
  else
    let digits := Nat.toDigits 16 byte.toNat
    "\\x" ++ String.ofList (List.replicate (2 - digits.length) '0' ++ digits)

/-- `repr(data)` of a bytes object. -/
def bytesText (data : List UInt8) : String :=
  let quote := if (39 : UInt8) ∈ data ∧ (34 : UInt8) ∉ data then '"' else '\''
  "b" ++ quote.toString ++ String.join (data.map (byteText quote)) ++ quote.toString

end TunerOs
