import SourceAudit.Digest.Sha256
import SourceAudit.Document.Value
import SourceAudit.Store.Basic

/-!
  A cache of results by language and source. Keys are digests of both and of a
  salt. A cache that is switched off, or whose disk fails, answers like an empty
  one and never fails itself.
-/
namespace SourceAudit

/-- What the disk behind a cache does. -/
inductive Disk where
  | absent
  | working
  | failing (reason : String)
  deriving DecidableEq, Repr

/-- A cache: its disk, how many entries it keeps and how long, the salt of its keys, and its
entries. -/
structure Cache (α : Type) where
  disk : Disk := .working
  limit : Value := .whole 100
  life : Value := .whole 300
  salt : String := ""
  store : Store α := []

namespace Cache

variable {α : Type}

/-- What a key is the digest of. -/
def keyText (language source salt : String) : String :=
  salt ++ "\x00" ++ language ++ "\x00" ++ source

/-- The key of a source. -/
def keyOf (language source salt : String) : String := Sha256.hex (keyText language source salt)

/-- The key of a source in a cache. -/
def key (c : Cache α) (language source : String) : String := keyOf language source c.salt

/-- When an entry written at some time expires: never, if the life is zero or not given. There
is no such time if the life is no number, or too large a one. -/
def expiry? (life : Value) (now : Rat) : Option (Option Quantity) :=
  if !life.isSet then some none
  else
    match life.quantity? with
    | none => none
    | some (.finite q) => if Quantity.holds q then some (some (.finite (now + q))) else none
    | some other => some (some other)

/-- The result kept for a source. -/
def get? (c : Cache α) (now : Rat) (language source : String) : Option α :=
  match c.disk with
  | .working => c.store.get? now (c.key language source)
  | _ => none

/-- The cache after a result is kept for a source. Nothing is kept if the limit is no number, or
if there is no time at which the result expires. -/
def set (c : Cache α) (now : Rat) (language source : String) (value : α) : Cache α :=
  match c.disk, c.limit.quantity?, expiry? c.life now with
  | .working, some limit, some expires =>
    { c with store := c.store.insert now limit ⟨c.key language source, value, expires⟩ }
  | _, _, _ => c

/-- The number of results kept. -/
def size (c : Cache α) : Nat :=
  match c.disk with
  | .working => c.store.length
  | _ => 0

/-- The cache after everything is forgotten. -/
def clear (c : Cache α) : Cache α :=
  match c.disk with
  | .working => { c with store := [] }
  | _ => c

/-- What is said of a cache: nothing but its state if it is off; the fault of its disk if that
fails. -/
def stats (c : Cache α) : Value :=
  match c.disk with
  | .absent => .table [("enabled", .flag false)]
  | .failing reason => .table [("enabled", .flag true), ("error", .text reason)]
  | .working =>
    .table [("enabled", .flag true), ("size", .whole c.size), ("max_entries", c.limit),
      ("ttl_seconds", c.life)]

end Cache
end SourceAudit
