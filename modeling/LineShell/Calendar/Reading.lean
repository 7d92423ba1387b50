import LineShell.Calendar

/-!
# Dates as people write them

A date is written as words in any order: a day, a time, a zone, the name of a day of the week, and
how far the moment is from there.  What is not said is taken from the present; a day without a
time is meant at its beginning.
-/

namespace LineShell
namespace Calendar

inductive Piece where
  /-- Digits, with the sign right before them, and the digits behind a point. -/
  | number (sign : Option Bool) (digits fraction : List Char)
  | word (text : String)
  | mark (c : Char)
  deriving DecidableEq, Repr

def withoutComment : Nat → List Char → List Char
  | _, [] => []
  | depth, '(' :: rest => withoutComment (depth + 1) rest
  | depth, ')' :: rest => withoutComment (depth - 1) rest
  | 0, rest => rest
  | depth, _ :: rest => withoutComment depth rest

def pieces : Nat → List Char → List Piece
  | 0, _ | _, [] => []
  | fuel + 1, c :: rest =>
    if c = ' ' || 9 ≤ c.toNat && c.toNat ≤ 13 || c = ',' then pieces fuel rest
    else if c = '(' then pieces fuel (withoutComment 1 rest)
    else if c.isAlpha then
      let letters := (c :: rest).takeWhile fun c => c.isAlpha || c = '.'
      let name := (letters.filter Char.isAlpha).map Char.toLower
      .word (String.ofList name) :: pieces fuel ((c :: rest).drop letters.length)
    else
      let signed := (c = '-' || c = '+') && rest.head?.any Char.isDigit
      let body := if signed then rest else c :: rest
      let digits := body.takeWhile Char.isDigit
      if digits.isEmpty then .mark c :: pieces fuel rest
      else
        let after := body.drop digits.length
        let (fraction, after) := match after with
          | point :: d :: more =>
            if (point = '.' || point = ',') && d.isDigit then
              ((d :: more).takeWhile Char.isDigit, (d :: more).dropWhile Char.isDigit)
            else ([], after)
          | _ => ([], after)
        .number (if signed then some (c = '-') else none) digits fraction :: pieces fuel after

/-- What was said of a moment so far. -/
structure Said where
  day : Option (Int × Nat × Nat) := none
  /-- The hour, the minute, the second and the billionths. -/
  time : Option (Nat × Nat × Nat × Nat) := none
  /-- How many minutes the zone is ahead. -/
  zone : Option Int := none
  /-- A day of the week, and how many of them lie between. -/
  weekday : Option (Nat × Int) := none
  /-- Whether the distance from now was told. -/
  relative : Bool := false
  months : Int := 0
  days : Int := 0
  seconds : Int := 0
  nanos : Int := 0
  /-- A moment that was told by its number. -/
  absolute : Option Moment := none

/-- Billionths from the digits behind a point. -/
def nanosOf (fraction : List Char) : Nat :=
  Numeral.value ((fraction ++ List.replicate 9 '0').take 9)

def month? (name : String) : Option Nat :=
  if name.length < 3 then none
  else if name = "sept" then some 9
  else (Date.months.findIdx? fun full =>
    let full := full.toLower
    full = name || (name.length = 3 && full.startsWith name)).map (· + 1)

/-- The number of a day of the week by its name. -/
def weekday? (name : String) : Option Nat :=
  match name with
  | "tues" => some 2
  | "wednes" => some 3
  | "thur" | "thurs" => some 4
  | _ =>
    if name.length < 3 then none
    else Date.weekdays.findIdx? fun full =>
      let full := full.toLower
      full = name || name.length = 3 && full.startsWith name

/-- A distance of units: how many months, days and seconds one has. -/
def unit? (name : String) : Option (Int × Int × Int) :=
  let single := if name.length < 4 then name
    else if name.endsWith "s" then (name.dropEnd 1).toString else name
  match single with
  | "year" => some (12, 0, 0)
  | "month" => some (1, 0, 0)
  | "fortnight" => some (0, 14, 0)
  | "week" => some (0, 7, 0)
  | "day" => some (0, 1, 0)
  | "hour" => some (0, 0, 3600)
  | "minute" | "min" => some (0, 0, 60)
  | "second" | "sec" => some (0, 0, 1)
  | _ => none

/-- Words for numbers. -/
def ordinal? (name : String) : Option Int :=
  ([("last", -1), ("this", 0), ("next", 1), ("first", 1), ("third", 3), ("fourth", 4), ("fifth", 5),
    ("sixth", 6), ("seventh", 7), ("eighth", 8), ("ninth", 9), ("tenth", 10), ("eleventh", 11),
    ("twelfth", 12)] : List (String × Int)).lookup name

def zone? (name : String) : Option Int :=
  ([("z", 0), ("utc", 0), ("ut", 0), ("gmt", 0), ("wet", 0), ("west", 60), ("bst", 60), ("cet", 60),
    ("cest", 120), ("met", 60), ("mest", 120), ("eet", 120), ("eest", 180), ("msk", 180),
    ("est", -300), ("edt", -240), ("cst", -360), ("cdt", -300), ("mst", -420), ("mdt", -360),
    ("pst", -480), ("pdt", -420), ("akst", -540), ("akdt", -480), ("hst", -600), ("ist", 330),
    ("jst", 540), ("sgt", 480), ("nzst", 720), ("nzdt", 780)] : List (String × Int)).lookup name

/-- The year that two digits may stand for. -/
def fullYear (digits : List Char) : Int :=
  let n := Numeral.value digits
  if 2 < digits.length then n else if n < 69 then 2000 + n else 1900 + n

/-- The hour of a clock of twelve hours. -/
def hour? (n : Nat) (half : String) : Option Nat :=
  if n = 0 || 12 < n then none
  else if half = "am" then some (n % 12) else if half = "pm" then some (n % 12 + 12) else none

namespace Said

def move (s : Said) (count : Int) (nanos : Int) (unit : Int × Int × Int) : Said :=
  { s with
    relative := true, months := s.months + count * unit.1, days := s.days + count * unit.2.1
    seconds := s.seconds + count * unit.2.2, nanos := s.nanos + nanos }

/-- Tells the day; none if it was told before. -/
def onDay (s : Said) (year : Int) (month day : Nat) : Option Said :=
  if s.day.isSome then none else some { s with day := some (year, month, day) }

/-- Tells the time; none if it was told before. -/
def atTime (s : Said) (hour minute second nano : Nat) : Option Said :=
  if s.time.isSome then none else some { s with time := some (hour, minute, second, nano) }

/-- Tells the zone; none if it was told before. -/
def inZone (s : Said) (minutes : Int) : Option Said :=
  if s.zone.isSome then none else some { s with zone := some minutes }

def zoneDigits (negative : Bool) (digits : List Char) (minutes : Option Nat) : Int :=
  let n := Numeral.value digits
  let all : Nat := match minutes with
    | some m => n * 60 + m
    | none => if digits.length ≤ 2 then n * 60 else n / 100 * 60 + n % 100
  if negative then -(all : Int) else all

end Said

def takeZone (s : Said) : List Piece → Option (Said × List Piece)
  | .number (some negative) digits [] :: .mark ':' :: .number none more [] :: rest =>
    (s.inZone (Said.zoneDigits negative digits (some (Numeral.value more)))).map (·, rest)
  | .number (some negative) digits [] :: rest =>
    (s.inZone (Said.zoneDigits negative digits none)).map (·, rest)
  | rest => some (s, rest)

def readPieces (now : Date) : Nat → Said → List Piece → Option Said
  | 0, _, _ => none
  | _, s, [] => some s
  | fuel + 1, s, piece :: rest => do
    let value := fun (sign : Option Bool) (digits : List Char) =>
      let n : Int := Numeral.value digits
      if sign = some true then -n else n
    let ago := fun (s : Said) (count nanos : Int) (unit : Int × Int × Int) (rest : List Piece) =>
      match rest with
      | .word "ago" :: rest => (s.move (-count) (-nanos) unit, rest)
      | rest => (s.move count nanos unit, rest)
    match piece, rest with
    -- Numbers of seconds.
    | .mark '@', .number sign digits fraction :: rest =>
      let n := value sign digits * Moment.second
      let nano : Int := nanosOf fraction
      let s := { s with absolute := some (if sign = some true then n - nano else n + nano) }
      readPieces now fuel s rest
    -- Times.
    | .number none hour [], .mark ':' :: .number none minute [] :: .mark ':' ::
        .number none second fraction :: rest =>
      let h := Numeral.value hour
      let (h, rest) ← match rest with
        | .word half :: more =>
          if half = "am" || half = "pm" then (hour? h half).map (·, more) else some (h, rest)
        | _ => some (h, rest)
      let s ← s.atTime h (Numeral.value minute) (Numeral.value second) (nanosOf fraction)
      let (s, rest) ← takeZone s rest
      readPieces now fuel s rest
    | .number none hour [], .mark ':' :: .number none minute [] :: rest =>
      let h := Numeral.value hour
      let (h, rest) ← match rest with
        | .word half :: more =>
          if half = "am" || half = "pm" then (hour? h half).map (·, more) else some (h, rest)
        | _ => some (h, rest)
      let s ← s.atTime h (Numeral.value minute) 0 0
      let (s, rest) ← takeZone s rest
      readPieces now fuel s rest
    -- Days in digits.
    | .number none a [], .mark '/' :: .number none b [] :: .mark '/' :: .number none c [] :: rest =>
      let s ← if 4 ≤ a.length then s.onDay (Numeral.value a) (Numeral.value b) (Numeral.value c)
        else s.onDay (fullYear c) (Numeral.value a) (Numeral.value b)
      readPieces now fuel s rest
    | .number none a [], .mark '/' :: .number none b [] :: rest =>
      let s ← s.onDay now.year (Numeral.value a) (Numeral.value b)
      readPieces now fuel s rest
    | .number none a [], .number (some true) b [] :: .number (some true) c [] :: rest =>
      let s ← s.onDay (fullYear a) (Numeral.value b) (Numeral.value c)
      let rest := match rest with
        | .word "t" :: more => more
        | rest => rest
      readPieces now fuel s rest
    -- Days with a name of a month.
    | .number none day [], .mark '-' :: .word name :: .number (some true) year [] :: rest =>
      let s ← s.onDay (fullYear year) (← month? name) (Numeral.value day)
      readPieces now fuel s rest
    | .number none digits fraction, .word name :: rest =>
      match month? name, unit? name, fraction with
      | some month, _, [] =>
        match rest with
        | .number none year [] :: more =>
          -- Digits before a colon are the hour of a time.
          if more.head? = some (.mark ':') then
            let s ← s.onDay now.year month (Numeral.value digits)
            readPieces now fuel s rest
          else
            let s ← s.onDay (fullYear year) month (Numeral.value digits)
            readPieces now fuel s more
        | _ =>
          let s ← s.onDay now.year month (Numeral.value digits)
          readPieces now fuel s rest
      | _, some unit, fraction =>
        let (s, rest) := ago s (Numeral.value digits) (nanosOf fraction) unit rest
        readPieces now fuel s rest
      | _, _, [] =>
        if name = "am" || name = "pm" then
          let s ← s.atTime (← hour? (Numeral.value digits) name) 0 0 0
          readPieces now fuel s rest
        else
          let s ← plainNumber s digits
          readPieces now fuel s (.word name :: rest)
      | _, _, _ => none
    | .number (some negative) digits fraction, .word name :: rest =>
      match unit? name with
      | some unit =>
        let nano : Int := nanosOf fraction
        let (s, rest) := ago s (value (some negative) digits)
          (if negative then -nano else nano) unit rest
        readPieces now fuel s rest
      | none => none
    | .number none digits [], rest =>
      let s ← plainNumber s digits
      readPieces now fuel s rest
    -- Words.
    | .word name, rest =>
      match month? name, weekday? name, unit? name, ordinal? name, zone? name with
      | some month, _, _, _, _ =>
        match rest with
        | .number none day [] :: .number none year [] :: more =>
          if more.head? = some (.mark ':') then
            let s ← s.onDay now.year month (Numeral.value day)
            readPieces now fuel s (.number none year [] :: more)
          else
            let s ← s.onDay (fullYear year) month (Numeral.value day)
            readPieces now fuel s more
        | .number none day [] :: more =>
          let s ← s.onDay now.year month (Numeral.value day)
          readPieces now fuel s more
        | _ => none
      | none, some weekday, _, _, _ =>
        if s.weekday.isSome then none
        else readPieces now fuel { s with weekday := some (weekday, 0) } rest
      | none, none, some unit, _, _ =>
        let (s, rest) := ago s 1 0 unit rest
        readPieces now fuel s rest
      | none, none, none, some count, _ =>
        match rest with
        | .word next :: rest =>
          match unit? next, weekday? next with
          | some unit, _ =>
            let (s, rest) := ago s count 0 unit rest
            readPieces now fuel s rest
          | none, some weekday =>
            if s.weekday.isSome then none
            else readPieces now fuel { s with weekday := some (weekday, count) } rest
          | none, none => none
        | _ => none
      | none, none, none, none, some minutes =>
        let s ← s.inZone minutes
        readPieces now fuel s rest
      | none, none, none, none, none =>
        match name with
        | "now" | "today" => readPieces now fuel { s with relative := true } rest
        | "tomorrow" => readPieces now fuel (s.move 1 0 (0, 1, 0)) rest
        | "yesterday" => readPieces now fuel (s.move (-1) 0 (0, 1, 0)) rest
        | _ => none
    | _, _ => none
where
  /-- What a number on its own tells: a year, a day or a time. -/
  plainNumber (s : Said) (digits : List Char) : Option Said :=
    let n := Numeral.value digits
    if s.day.isSome && !s.relative && s.time.isSome && digits.length = 4 then
      s.day.map fun day => { s with day := some (n, day.2) }
    else if 4 < digits.length then
      s.onDay (fullYear (digits.take (digits.length - 4))) (n / 100 % 100) (n % 100)
    else if digits.length ≤ 2 then s.atTime n 0 0 0
    else s.atTime (n / 100) (n % 100) 0 0

def Said.moment (now : Moment) (s : Said) : Option Moment := do
  match s.absolute with
  | some moment =>
    if s.day.isSome || s.time.isSome || s.weekday.isSome || s.zone.isSome then none
    else some (moment + s.seconds * Moment.second + s.days * 86400 * Moment.second + s.nanos)
  | none =>
    let present := Date.ofMoment now
    let (year, month, day) := s.day.getD (present.year, present.month, present.day)
    let keeps := s.day.isNone && s.time.isNone && s.weekday.isNone
    let (hour, minute, second, nano) := s.time.getD
      (if keeps then (present.hour, present.minute, present.second, present.nano) else (0, 0, 0, 0))
    let date : Date := { year, month, day, hour, minute, second, nano }
    if !date.isProper then none
    else
      let moved := Date.ofDayNumber (Date.dayNumber year (month + s.months) day)
      let date := { date with year := moved.1, month := moved.2.1, day := moved.2.2 }
      let forward : Int := match s.weekday with
        | some (weekday, count) =>
          if s.day.isSome then 0
          else
            let ahead : Int := Int.fmod ((weekday : Int) - date.weekday) 7
            let weeks := if 0 < count && ahead != 0 then count - 1 else count
            ahead + 7 * weeks
        | none => 0
      let zone := s.zone.getD 0
      let seconds := (s.days + forward) * 86400 + s.seconds - zone * 60
      some (date.moment + seconds * Moment.second + s.nanos)

def read? (now : Moment) (text : String) : Option Moment := do
  let text := if text.startsWith "TZ=\"UTC\"" then (text.drop 8).toString else text
  let all := pieces (text.length + 1) text.toList
  let s ← readPieces (Date.ofMoment now) (all.length + 1) {} all
  s.moment now

/-- Reads digits for month, day, hour and minute, with the year in front or not, and with the
seconds behind a point. -/
def readStamp? (now : Moment) (text : String) : Option Moment := do
  let chars := text.toList
  let digits := chars.takeWhile Char.isDigit
  let second ← match chars.drop digits.length with
    | [] => some 0
    | ['.', a, b] => if a.isDigit && b.isDigit then some (Numeral.value [a, b]) else none
    | _ => none
  let two := fun n => Numeral.value ((digits.drop n).take 2)
  let (year, start) ← match digits.length with
    | 8 => some ((Date.ofMoment now).year, 0)
    | 10 => some (fullYear (digits.take 2), 2)
    | 12 => some ((Numeral.value (digits.take 4) : Int), 4)
    | _ => none
  let date : Date :=
    { year, month := two start, day := two (start + 2), hour := two (start + 4)
      minute := two (start + 6), second }
  if date.isProper then some date.moment else none

end Calendar
end LineShell
