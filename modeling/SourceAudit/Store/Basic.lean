import SourceAudit.Number.Quantity

/-!
  A store of values by key, oldest first. Writing a key again keeps its place.
  An entry may expire at some time; expired entries are never read, and go when
  something is written. The oldest entries go first when there are too many.
-/
namespace SourceAudit

/-- A stored value; `expires` is the time up to which it is read. -/
structure StoreEntry (α : Type) where
  key : String
  value : α
  expires : Option Quantity := none

/-- The entries of a store, oldest first. -/
abbrev Store (α : Type) := List (StoreEntry α)

/-- Whether an entry can be read at some time. -/
def StoreEntry.isLive {α : Type} (e : StoreEntry α) (now : Rat) : Bool :=
  match e.expires with
  | none => true
  | some t => (Quantity.finite now).lt t

namespace Store

variable {α : Type}

/-- The value under a key, if it can still be read. -/
def get? (s : Store α) (now : Rat) (key : String) : Option α :=
  match s.find? fun e => e.key == key with
  | some e => if e.isLive now then some e.value else none
  | none => none

/-- Writes an entry: in the place of its key, or as the newest one. -/
def put (entry : StoreEntry α) : Store α → Store α
  | [] => [entry]
  | e :: rest => if e.key == entry.key then entry :: rest else e :: put entry rest

/-- The newest entries, as many as the limit allows. -/
def trim (limit : Quantity) : Store α → Store α
  | [] => []
  | e :: rest =>
    if limit.lt (.ofInt ((rest.length : Int) + 1)) then trim limit rest else e :: rest

/-- Writes an entry, forgets what has expired, and then the oldest entries over the limit. -/
def insert (s : Store α) (now : Rat) (limit : Quantity) (entry : StoreEntry α) : Store α :=
  trim limit ((put entry s).filter fun e => e.isLive now)

end Store
end SourceAudit
