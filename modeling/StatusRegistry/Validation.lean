import StatusRegistry.Text.Numeral

/-!
# Rejected requests

The reasons for which a request is turned down before anything is read or stored, and their
wording.
-/

set_option autoImplicit false

namespace StatusRegistry

/-- Why a request is turned down. -/
inductive ValidationError where
  | missingIssuer
  | missingCredential
  | invalidPurpose (text : String)
  | invalidWidth (bits : Nat)
  | capacityBelowMinimum (requested : Nat)
  | capacityAboveMaximum (requested maximum : Nat)
  | negativeTtl (requested : Int)
  | ttlTooLong (requested : Int) (maximum : Nat)
  | codeOutOfRange (code bits : Nat)
  | indexOutOfRange (index capacity : Nat)
  deriving DecidableEq, Repr

namespace ValidationError

open Text

/-- The wording of a rejection, for the operator who has to mend the request. -/
def message : ValidationError → String
  | missingIssuer => "issuerId is required"
  | missingCredential => "credentialId is required"
  | invalidPurpose text => "Invalid status purpose: " ++ text
  | invalidWidth _ => "statusSize must be between 1 and 8 bits"
  | capacityBelowMinimum _ => "totalEntries must be at least 131,072 for privacy"
  | capacityAboveMaximum requested maximum =>
    "totalEntries must be at most " ++ decimalText maximum ++ ", got " ++ decimalText requested
  | negativeTtl _ => "ttl must be non-negative"
  | ttlTooLong requested maximum =>
    "ttl must be at most " ++ decimalText maximum ++ " ms, got " ++ integerText requested
  | codeOutOfRange code bits =>
    "status " ++ decimalText code ++ " does not fit in a " ++ decimalText bits ++
      "-bit status slot"
  | indexOutOfRange index capacity =>
    "statusListIndex " ++ decimalText index ++ " is outside a list of " ++
      decimalText capacity ++ " entries"

end ValidationError

end StatusRegistry
