import SourceAudit.Document.JsonReader
import SourceAudit.Remote.Reading

/-!
  The answer of a remote service. The object looked for reaches from the first
  opening brace to the last closing one, once the fences of code blocks are
  taken out; the payload may be wrapped under the name "analysis". An object that
  is no payload leaves the answer as prose.
-/
namespace SourceAudit
namespace Remote

/-- An answer: a payload, or prose. -/
inductive Answer where
  | payload (p : Payload)
  | prose (t : Text)
  deriving DecidableEq, Repr

/-- Why no answer is read from a body: there is no object in it, or the object is not read. -/
inductive BodyFault where
  | noObject
  | unreadable (object : Text) (fault : Json.Fault)
  deriving DecidableEq, Repr

/-- How a fault is reported. -/
def BodyFault.message : BodyFault → String
  | noObject => "no JSON object in response"
  | unreadable object fault => fault.report object

namespace Answer

/-- What names the language of a code block. -/
def isFenceWord (c : Char) : Bool := Unicode.isWord c || c == '-'

/-- A text without the fences of code blocks; the last argument is the text, the first one how
much of it belongs to a fence. -/
def withoutFencesFrom : Nat → Bool → Text → Text
  | _, _, [] => []
  | skip + 1, word, _ :: rest => withoutFencesFrom skip word rest
  | 0, word, c :: rest =>
    if word && isFenceWord c then withoutFencesFrom 0 true rest
    else if ['\x60', '\x60', '\x60'].isPrefixOf (c :: rest) then withoutFencesFrom 2 true rest
    else c :: withoutFencesFrom 0 false rest

/-- A text without the fences of code blocks: three backquotes and a word. -/
def withoutFences (t : Text) : Text := withoutFencesFrom 0 false t

/-- The span from the first opening brace to the last closing one. -/
def outermost? (t : Text) : Option Text :=
  let tail := t.dropWhile (· != '\x7b')
  let span := (tail.reverse.dropWhile (· != '\x7d')).reverse
  if span.isEmpty then none else some span

/-- The object that a body holds, as a text. -/
def object? (body : Text) : Option Text := outermost? (withoutFences body)

/-- A value, or the table that it wraps. -/
def unwrapped (v : Value) : Value :=
  match v.get? "analysis" with
  | some (.table es) => .table es
  | _ => v

/-- The answer that a body holds. -/
def ofBody (body : Text) : Except BodyFault Answer :=
  match object? body with
  | none => .error .noObject
  | some object =>
    match Json.read object with
    | .error fault => .error (.unreadable object fault)
    | .ok v =>
      match Payload.ofValue? (unwrapped v) with
      | some p => .ok (payload p)
      | none => .ok (prose body)

end Answer
end Remote
end SourceAudit
