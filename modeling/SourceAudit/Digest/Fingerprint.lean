import SourceAudit.Digest.Sha256
import SourceAudit.Document.JsonWriter

/-!
  Fingerprints of values. Two values have one fingerprint if they are written
  alike once the entries of tables are sorted by name.
-/
namespace SourceAudit
namespace Value

/-- The length of a fingerprint. -/
def fingerprintLength : Nat := 16

/-- What a fingerprint is the digest of. -/
def canonical (v : Value) : String := Json.compact (Json.sorted v)

/-- The fingerprint of a value. -/
def fingerprint (v : Value) : String :=
  String.ofList ((Sha256.hex v.canonical).toList.take fingerprintLength)

end Value
end SourceAudit
