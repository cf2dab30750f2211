import SourceAudit.Document.Value
import SourceAudit.Number.Reading
import SourceAudit.Pattern.Notation

/-!
  Numbers, dates and times of TOML. Dates follow the calendar: month lengths
  and leap years count, and the year zero does not exist.
-/
namespace SourceAudit
namespace Toml

/-- A time of day. -/
def timeForm : String := r"(?:[01][0-9]|2[0-3]):[0-5][0-9]:[0-5][0-9](?:\.[0-9]+)?"

/-- A time of day alone. -/
def clock : Pattern := .written timeForm

/-- A date, with or without a time, and that with or without its distance from the meridian. -/
def moment : Pattern :=
  .written (r"([0-9][0-9][0-9][0-9])-(0[1-9]|1[0-2])-(0[1-9]|[12][0-9]|3[01])" ++
    "(?:[Tt ](" ++ timeForm ++ r")([Zz]|[+-](?:[01][0-9]|2[0-3]):[0-5][0-9])?)?")

/-- A whole number to the base sixteen, two or eight. -/
def basedNumber : Pattern :=
  .written "0(?:x[0-9A-Fa-f](?:_?[0-9A-Fa-f])*|b[01](?:_?[01])*|o[0-7](?:_?[0-7])*)"

/-- A decimal number; the group is the part that makes it a fraction. -/
def decimalNumber : Pattern :=
  .written (r"[+-]?(?:0|[1-9](?:_?[0-9])*)" ++
    r"((?:\.[0-9](?:_?[0-9])*)?(?:[eE][+-]?[0-9](?:_?[0-9])*)?)")

/-- Whether a year has a leap day. -/
def isLeap (year : Nat) : Bool := year % 4 == 0 && (year % 100 != 0 || year % 400 == 0)

/-- The number of days of a month. -/
def daysIn (year month : Nat) : Nat :=
  if month == 2 then if isLeap year then 29 else 28
  else if month ∈ [4, 6, 9, 11] then 30
  else 31

/-- The number that ASCII digits stand for. -/
def natOf (t : Text) : Nat := t.foldl (fun n d => 10 * n + (d.toNat - '0'.toNat)) 0

/-- A time of day with six places for a fraction of a second, if it has one other than zero. -/
def clockText (t : Text) : Text :=
  let places := (t.drop 9).take 6
  let places := places ++ List.replicate (6 - places.length) '0'
  if t.length ≤ 9 || places.all (· == '0') then t.take 8 else t.take 9 ++ places

/-- The text of a distance from the meridian. -/
def zoneText : Text → Text
  | [] => []
  | c :: rest =>
    if c == 'Z' || c == 'z' || rest == "00:00".toList then "+00:00".toList else c :: rest

/-- The date, or date and time, that a match stands for, if the calendar has it. -/
def momentOf? (m : Match) : Option Value :=
  let year := natOf (m.part 1)
  let month := natOf (m.part 2)
  let day := natOf (m.part 3)
  if year == 0 || daysIn year month < day then none
  else if (m.part 4).isEmpty then some (.moment "datetime.date" (String.ofList (m.text.take 10)))
  else
    some (.moment "datetime.datetime"
      (String.ofList (m.text.take 10 ++ ' ' :: clockText (m.part 4) ++ zoneText (m.part 5))))

/-- The number to the base that the letter after the zero names. -/
def basedValue (t : Text) : Nat :=
  let base := match t.drop 1 with
    | 'x' :: _ => 16
    | 'o' :: _ => 8
    | _ => 2
  ((t.drop 2).filterMap Number.hexValue?).foldl (fun n d => base * n + d) 0

/-- The words for what is no finite number. -/
def specialWords : List (String × Quantity) :=
  [("inf", .infinite false), ("nan", .undefined), ("+inf", .infinite false),
   ("-inf", .infinite true), ("+nan", .undefined), ("-nan", .undefined)]

/-- A number, a date or a time at the head of a text, with what follows. -/
def scalar? (t : Text) : Option (Value × Text) :=
  match moment.matchStart? t with
  | some m => (momentOf? m).map fun v => (v, t.drop m.stop)
  | none =>
    match clock.matchStart? t with
    | some m => some (.moment "datetime.time" (String.ofList (clockText m.text)), t.drop m.stop)
    | none =>
      match basedNumber.matchStart? t with
      | some m => some (.whole (basedValue m.text), t.drop m.stop)
      | none =>
        match decimalNumber.matchStart? t with
        | some m =>
          if (m.part 1).isEmpty then
            match Number.whole m.text with
            | .ok n => some (.whole n, t.drop m.stop)
            | .error _ => none
          else (Number.fraction? m.text).map fun q => (Value.real q, t.drop m.stop)
        | none =>
          (specialWords.find? fun w => t.startsWith w.1.toList).map fun w =>
            (.real w.2, t.drop w.1.length)

end Toml
end SourceAudit
