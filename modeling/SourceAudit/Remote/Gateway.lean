import SourceAudit.Config.Basic
import SourceAudit.Remote.Address
import SourceAudit.Remote.Answer

/-!
  The gateway to a remote service. A gateway that is switched off posts nothing;
  one that is on posts the source once. Whatever goes wrong on the way, and a
  body without an object or with a malformed one, makes the service unavailable,
  with a reason, and is no failure of the caller. An address that cannot be
  read and a key that is not ASCII are failures, and nothing is posted. So are an
  answer from an address that is not absolute, and a body that exceeds what is
  read.
-/
namespace SourceAudit
namespace Remote

/-- A request: where it is posted, the source and its language, and the caller's key. -/
structure Request where
  address : Address
  source : Text
  language : String
  key : Option String := none
  deriving DecidableEq, Repr

/-- What a server does with a request. -/
inductive Reply where
  | response (status : Int) (body : Text)
  | timeout
  | broken (reason : String)
  deriving DecidableEq, Repr

/-- A server answers each request. -/
abbrev Server := Request → Reply

/-- Why asking fails: the address is no text or cannot be read, the proof of who asks is not
ASCII, an address that answers is not absolute, or the body exceeds what is read. -/
inductive AskingFault where
  | notAddress (kind shown : String)
  | misaddressed (f : Address.Fault)
  | unwritable (f : Ascii.Foreign)
  | relative (url : String)
  | excessive (e : Json.Excess)
  deriving DecidableEq, Repr

/-- How a failure to ask is reported. -/
def AskingFault.message : AskingFault → String
  | notAddress kind shown =>
    "Invalid type for url.  Expected str or httpx.URL, got <class '" ++ kind ++ "'>: " ++ shown
  | misaddressed f => f.message
  | unwritable f => f.message
  | relative url => "unknown url type: " ++ Quoted.ofString url
  | excessive e => e.message

/-- What comes of asking: an answer, the reason why there is none, or a failure. -/
inductive Outcome where
  | unavailable (reason : String)
  | answered (a : Answer)
  | failed (f : AskingFault)
  deriving DecidableEq, Repr

namespace Request

/-- Where a request is posted. -/
def url (r : Request) : String := String.ofList r.address.resolved.text

/-- How the key of a request proves who asks. -/
def bearer (r : Request) : Option String := r.key.map fun k => "Bearer " ++ k

/-- How a request proves who asks: by its address, if that names someone, else by its key. -/
def authorization (r : Request) : Option String := r.address.resolved.proof?.or r.bearer

/-- What keeps the key of a request from being written. -/
def unwritable? (r : Request) : Option Ascii.Foreign :=
  r.bearer.bind fun proof => Ascii.foreign? proof.toList

/-- The body of a request. -/
def body (r : Request) : Value :=
  .table [("code", .text (String.ofList r.source)), ("language", .text r.language)]

end Request

namespace Outcome

/-- Why there is no answer; empty if there is one. -/
def reason : Outcome → String
  | unavailable reason => reason
  | answered _ => ""
  | failed f => f.message

/-- The answer, if there is one. -/
def answer? : Outcome → Option Answer
  | answered a => some a
  | unavailable _ | failed _ => none

/-- The outcome of a body that comes with success. -/
def ofBody (body : Text) : Outcome :=
  match Answer.ofBody body with
  | .ok a => answered a
  | .error (.unreadable _ (.excessive e)) => failed (.excessive e)
  | .error fault => unavailable fault.message

/-- The outcome of a reply. -/
def ofReply : Reply → Outcome
  | .timeout => unavailable "timeout"
  | .broken reason => unavailable reason
  | .response status body =>
    if 200 ≤ status ∧ status < 300 then ofBody body
    else unavailable ("HTTP " ++ toString status)

/-- The outcome of a reply to a request: an address that is not absolute must not answer. -/
def ofReplyTo (r : Request) : Reply → Outcome
  | .response status body =>
    if r.address.isAbsolute then ofReply (.response status body) else failed (.relative r.url)
  | reply => ofReply reply

end Outcome

/-- A gateway: its settings, and the server behind it. -/
structure Gateway where
  settings : Settings
  server : Server

/-- What comes of asking, with the requests that were posted. -/
structure Exchange where
  outcome : Outcome
  posted : List Request := []
  deriving DecidableEq, Repr

namespace Gateway

/-- Whether a gateway is switched on. -/
def isActive (g : Gateway) : Bool := Config.gatewayActive g.settings

/-- The text of a setting that is set. -/
def given? (g : Gateway) (name : String) : Option String :=
  let v := g.settings.valueOf name
  if v.isSet then some v.shown else none

/-- The address of the service. -/
def address (g : Gateway) : Except AskingFault Address :=
  match g.settings.valueOf "url" with
  | .text url => (Address.ofText url.toList).mapError .misaddressed
  | v => .error (.notAddress v.kindName v.shown)

/-- The request that a gateway posts for a source. -/
def requestFor (g : Gateway) (source : Text) (language : String) : Except AskingFault Request := do
  let request : Request :=
    { address := ← g.address, source := source, language := language, key := g.given? "api_key" }
  match request.unwritable? with
  | some f => throw (.unwritable f)
  | none => return request

/-- Asks the service about a source. -/
def ask (g : Gateway) (source : Text) (language : String) : Exchange :=
  if g.isActive then
    match g.requestFor source language with
    | .error f => { outcome := .failed f }
    | .ok request =>
      { outcome := .ofReplyTo request (g.server request), posted := [request] }
  else { outcome := .unavailable "gateway disabled" }

end Gateway
end Remote
end SourceAudit
