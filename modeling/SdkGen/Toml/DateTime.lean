/-!
# Points in time

* `DateTime`: a date, a time of day, or both; with both an offset from universal time.
* `DateTime.read`: the point in time that a text names, or why it names none.
* `DateTime.text`: its form in full.
-/

namespace SdkGen.Toml

/-- A day of the calendar. -/
structure Date where
  year : Nat
  month : Nat
  day : Nat
  deriving DecidableEq, Repr, Inhabited

/-- A time of day, which may leave out seconds and their fraction. -/
structure DayTime where
  hour : Nat
  minute : Nat
  second : Option Nat
  nanosecond : Option Nat
  deriving DecidableEq, Repr, Inhabited

/-- An offset from universal time. -/
inductive Offset
  | zero
  | minutes (count : Int)
  deriving DecidableEq, Repr, Inhabited

/-- A point in time. -/
structure DateTime where
  date : Option Date
  time : Option DayTime
  offset : Option Offset
  deriving DecidableEq, Repr, Inhabited

namespace DateTime

/-! ## Reading -/

/-- The parts of the text of a point in time. -/
inductive Part
  | digits (chars : List Char)
  | dash
  | colon
  | letterT
  | space
  | letterZ
  | plus
  | dot
  | unknown
  deriving DecidableEq, Repr

/-- The parts of a text, up to the first that is unknown. -/
def parts : List Char → List Part
  | [] => []
  | c :: cs =>
    if c.isDigit then
      .digits (c :: cs.takeWhile Char.isDigit) :: parts (cs.dropWhile Char.isDigit)
    else match c with
      | '-' => .dash :: parts cs
      | ':' => .colon :: parts cs
      | 'T' => .letterT :: parts cs
      | 't' => .letterT :: parts cs
      | ' ' => .space :: parts cs
      | 'Z' => .letterZ :: parts cs
      | 'z' => .letterZ :: parts cs
      | '+' => .plus :: parts cs
      | '.' => .dot :: parts cs
      | _ => [.unknown]
termination_by cs => cs.length
decreasing_by
  all_goals simp only [List.length_cons]
  · have := (List.dropWhile_suffix (l := cs) Char.isDigit).length_le; omega
  all_goals omega

/-- Says that a thing is not well-formed, and what was expected. -/
def fault (name expected : String) : String := s!"invalid {name}, expected {expected}"

/-- The digits that stand first. -/
def digits (name expected : String) : List Part → Except String (List Char × List Part)
  | .digits ds :: ps => .ok (ds, ps)
  | _ => .error (fault name expected)

/-- Passes a part. -/
def part (p : Part) (name expected : String) : List Part → Except String (List Part)
  | q :: ps => if q = p then .ok ps else .error (fault name expected)
  | [] => .error (fault name expected)

/-- The number of so many digits. -/
def number (ds : List Char) (count : Nat) (name expected : String) : Except String Nat :=
  if ds.length = count then .ok (ds.foldl (fun n c => 10 * n + (c.toNat - 48)) 0)
  else .error (fault name expected)

/-- The days of a month. -/
def daysOf (year month : Nat) : Nat :=
  if month = 2 then
    if year % 4 = 0 && (year % 100 ≠ 0 || year % 400 = 0) then 29 else 28
  else if [4, 6, 9, 11].contains month then 30 else 31

/-- Refuses what does not hold. -/
def ensure (holds : Bool) (name expected : String) : Except String Unit :=
  if holds then .ok () else .error (fault name expected)

/-- The rest of a date after its year and the dash. -/
def readDate (year : List Char) (ps : List Part) : Except String (Date × List Part) := do
  let (month, ps) ← digits "date" "month" ps
  let ps ← part .dash "date" "`-` (MM-DD)" ps
  let (day, ps) ← digits "date" "day" ps
  let year ← number year 4 "date" "a four-digit year (YYYY)"
  let month ← number month 2 "date" "a two-digit month (MM)"
  let day ← number day 2 "date" "a two-digit day (DD)"
  ensure (1 ≤ month && month ≤ 12) "date" "month between 01 and 12"
  ensure (1 ≤ day && day ≤ daysOf year month) "date" s!"day between 01 and {daysOf year month}"
  return (⟨year, month, day⟩, ps)

/-- The first nine digits of a fraction as a number of nanoseconds. -/
def nanoseconds (ds : List Char) : Nat :=
  (ds.take 9).foldl (fun n c => 10 * n + (c.toNat - 48)) 0 * Nat.pow 10 (9 - ds.length)

/-- The digits of the seconds and of their fraction, where they are given. -/
def readSeconds (ps : List Part) :
    Except String (Option (List Char) × Option (List Char) × List Part) :=
  match ps with
  | .colon :: ps => do
    let (second, ps) ← digits "time" "second" ps
    match ps with
    | .dot :: ps =>
      let (fraction, ps) ← digits "time" "nanosecond" ps
      return (some second, some fraction, ps)
    | _ => return (some second, none, ps)
  | _ => .ok (none, none, ps)

/-- A time of day. -/
def readTime (ps : List Part) : Except String (DayTime × List Part) := do
  let (hour, ps) ← digits "time" "hour" ps
  let ps ← part .colon "time" "`:` (HH:MM)" ps
  let (minute, ps) ← digits "time" "minute" ps
  let (second, fraction, ps) ← readSeconds ps
  let hour ← number hour 2 "time" "a two-digit hour (HH)"
  let minute ← number minute 2 "time" "a two-digit minute (MM)"
  let second ← second.mapM fun ds => number ds 2 "time" "a two-digit second (SS)"
  ensure (hour ≤ 23) "time" "hour between 00 and 23"
  ensure (minute ≤ 59) "time" "minute between 00 and 59"
  ensure (second.getD 0 ≤ 60) "time" "second between 00 and 60"
  return (⟨hour, minute, second, fraction.map nanoseconds⟩, ps)

/-- An offset after its sign. -/
def readMinutes (sign : Int) (ps : List Part) : Except String (Offset × List Part) := do
  let (hour, ps) ← digits "offset" "hour" ps
  let ps ← part .colon "offset" "`:` (HH:MM)" ps
  let (minute, ps) ← digits "offset" "minute" ps
  let hour ← number hour 2 "offset" "a two-digit hour (HH)"
  let minute ← number minute 2 "offset" "a two-digit minute (MM)"
  ensure (hour ≤ 23) "offset" "hours between 00 and 23"
  ensure (minute ≤ 59) "offset" "minutes between 00 and 59"
  return (.minutes (sign * Int.ofNat (60 * hour + minute)), ps)

/-- An offset, if one is given. -/
def readOffset : List Part → Except String (Option Offset × List Part)
  | [] => .ok (none, [])
  | .letterZ :: ps => .ok (some .zero, ps)
  | .plus :: ps => do
    let (offset, ps) ← readMinutes 1 ps
    return (some offset, ps)
  | .dash :: ps => do
    let (offset, ps) ← readMinutes (-1) ps
    return (some offset, ps)
  | _ => .error (fault "offset" "`Z`, +OFFSET, -OFFSET")

/-- What stands after a date: nothing, or a time of day. -/
def readRest : List Part → Except String (Option DayTime × Option Offset × List Part)
  | [] => .ok (none, none, [])
  | p :: ps =>
    if p = .letterT || p = .space then do
      let (time, ps) ← readTime ps
      let (offset, ps) ← readOffset ps
      return (some time, offset, ps)
    else .error (fault "date-time" "`T` between date and time")

/-- Refuses parts that are left. -/
def finish (d : DateTime) (rest : List Part) : Except String DateTime :=
  if rest.isEmpty then .ok d else .error "invalid datetime"

/-- The point in time that a text names. -/
def read (cs : List Char) : Except String DateTime := do
  let ps := parts cs
  let (first, rest) ← digits "datetime" "year or hour" ps
  match rest with
  | .dash :: rest =>
    let (date, rest) ← readDate first rest
    let (time, offset, rest) ← readRest rest
    finish ⟨some date, time, offset⟩ rest
  | .colon :: _ =>
    let (time, rest) ← readTime ps
    finish ⟨none, some time, none⟩ rest
  | _ => .error (fault "datetime" "`-` (YYYY-MM) or `:` (HH:MM)")

/-! ## Writing -/

/-- A number with zeros before it, up to a width. -/
def padded (width n : Nat) : String :=
  let ds := (toString n).toList
  String.ofList (List.replicate (width - ds.length) '0' ++ ds)

/-- The text of a day. -/
def dateText (d : Date) : String :=
  s!"{padded 4 d.year}-{padded 2 d.month}-{padded 2 d.day}"

/-- The text of a fraction of a second, without the zeros at its end. -/
def fractionText (n : Nat) : String :=
  let ds := ((padded 9 n).toList.reverse.dropWhile (· = '0')).reverse
  if ds.isEmpty then "0" else String.ofList ds

/-- The text of a time of day. -/
def timeText (t : DayTime) : String :=
  s!"{padded 2 t.hour}:{padded 2 t.minute}" ++
    (t.second.map fun n => s!":{padded 2 n}").getD "" ++
    (t.nanosecond.map fun n => s!".{fractionText n}").getD ""

/-- The text of an offset. -/
def offsetText : Offset → String
  | .zero => "Z"
  | .minutes n =>
    let m := n.natAbs
    (if n < 0 then "-" else "+") ++ s!"{padded 2 (m / 60)}:{padded 2 (m % 60)}"

/-- The text of a point in time. -/
def text (d : DateTime) : String :=
  (d.date.map dateText).getD "" ++
    (if d.date.isSome && d.time.isSome then "T" else "") ++
    (d.time.map timeText).getD "" ++ (d.offset.map offsetText).getD ""

end DateTime

end SdkGen.Toml
