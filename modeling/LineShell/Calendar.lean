import LineShell.Text.Numeral

/-!
# Moments and dates

A moment is a number of billionths of a second since the beginning of 1970.  A date is what the
calendar calls a moment, where every clock shows universal time.  Dates are written through formats,
whose directives name their parts.
-/

namespace LineShell

/-- A moment, in billionths of a second since the beginning of 1970. -/
abbrev Moment := Int

/-- The moment at which everything happens: the clock of the host stands still. -/
def Moment.present : Moment := 1795091696000000000

/-- How many billionths a second has. -/
def Moment.second : Int := 1000000000

/-- A day and a time of that day. -/
structure Date where
  year : Int
  month : Nat := 1
  day : Nat := 1
  hour : Nat := 0
  minute : Nat := 0
  second : Nat := 0
  nano : Nat := 0
  deriving DecidableEq, Repr

namespace Date

/-- How many days lie between the beginning of 1970 and a day.  Months and days may lie outside of
their ranges; they count on from the beginning of the year, or of the month. -/
def dayNumber (year month day : Int) : Int :=
  let months := year * 12 + (month - 1)
  -- Years begin in March here, so that the day that may be missing is the last one.
  let shifted := months - 2
  let year := Int.fdiv shifted 12
  let month := Int.fmod shifted 12
  let age := Int.fdiv year 400
  let yearOfAge := Int.fmod year 400
  let dayOfYear := (153 * month + 2) / 5
  let dayOfAge := yearOfAge * 365 + yearOfAge / 4 - yearOfAge / 100 + dayOfYear
  age * 146097 + dayOfAge - 719468 + (day - 1)

def ofDayNumber (number : Int) : Int × Nat × Nat :=
  let shifted := number + 719468
  let age := Int.fdiv shifted 146097
  let day := Int.fmod shifted 146097
  let year := (day - day / 1460 + day / 36524 - day / 146096) / 365
  let dayOfYear := day - (365 * year + year / 4 - year / 100)
  let month := (5 * dayOfYear + 2) / 153
  let dayOfMonth := dayOfYear - (153 * month + 2) / 5 + 1
  let calendarMonth := if month < 10 then month + 3 else month - 9
  (year + age * 400 + (if calendarMonth ≤ 2 then 1 else 0), calendarMonth.toNat, dayOfMonth.toNat)

def moment (d : Date) : Moment :=
  let days := dayNumber d.year d.month d.day
  (((days * 24 + d.hour) * 60 + d.minute) * 60 + d.second) * Moment.second + d.nano

def ofMoment (moment : Moment) : Date :=
  let seconds := Int.fdiv moment Moment.second
  let (year, month, day) := ofDayNumber (Int.fdiv seconds 86400)
  let rest := (Int.fmod seconds 86400).toNat
  { year, month, day, hour := rest / 3600, minute := rest / 60 % 60, second := rest % 60
    nano := (Int.fmod moment Moment.second).toNat }

def isProper (d : Date) : Bool :=
  ofDayNumber (dayNumber d.year d.month d.day) = (d.year, d.month, d.day) &&
    d.hour < 24 && d.minute < 60 && d.second < 60

/-- The number of the day of the week, where Sunday is zero. -/
def weekday (d : Date) : Nat := (Int.fmod (dayNumber d.year d.month d.day + 4) 7).toNat

def yearDay (d : Date) : Nat :=
  (dayNumber d.year d.month d.day - dayNumber d.year 1 1 + 1).toNat

def weekdays : List String :=
  ["Sunday", "Monday", "Tuesday", "Wednesday", "Thursday", "Friday", "Saturday"]

def months : List String :=
  ["January", "February", "March", "April", "May", "June", "July", "August", "September", "October",
   "November", "December"]

/-- The year and the number of the week that a day belongs to, where a week begins on Monday and
belongs to the year that has most of it. -/
def week (d : Date) : Int × Nat :=
  let fromMonday := (d.weekday + 6) % 7
  let thursday := dayNumber d.year d.month d.day - fromMonday + 3
  let (year, _, _) := ofDayNumber thursday
  (year, ((thursday - dayNumber year 1 1) / 7 + 1).toNat)

/-! ## Formats -/

/-- How a directive is written: what fills it up, its width, and whether letters change. -/
structure Shape where
  fill : Option Char := none
  width : Option Nat := none
  capital : Bool := false
  swapped : Bool := false

def Shape.number (s : Shape) (usual : Char) (width : Nat) (n : Int) : List Char :=
  let fill := s.fill.getD usual
  let digits := Nat.toDigits 10 n.natAbs
  let sign := if n < 0 then ['-'] else []
  let width := s.width.getD width
  if fill = '-' then sign ++ digits
  else if fill = '_' then
    List.replicate (width - sign.length - digits.length) ' ' ++ sign ++ digits
  else sign ++ List.replicate (width - sign.length - digits.length) '0' ++ digits

/-- A word; `lowers` says that swapped letters are small. -/
def Shape.word (s : Shape) (lowers : Bool) (text : String) : List Char :=
  let chars := text.toList
  let chars := if s.swapped && lowers then chars.map Char.toLower
    else if s.capital || s.swapped then chars.map Char.toUpper else chars
  let fill := if s.fill = some '0' then '0' else ' '
  List.replicate ((s.width.getD 0) - chars.length) fill ++ chars

def composed : List (Char × String) :=
  [('c', "%a %b %e %H:%M:%S %Y"), ('D', "%m/%d/%y"), ('x', "%m/%d/%y"), ('F', "%Y-%m-%d"),
   ('r', "%I:%M:%S %p"), ('R', "%H:%M"), ('T', "%H:%M:%S"), ('X', "%H:%M:%S")]

def part (d : Date) (s : Shape) (letter : Char) : Option (List Char) :=
  let twelve := if d.hour % 12 = 0 then 12 else d.hour % 12
  let monday := (d.weekday + 6) % 7
  let name := fun (names : List String) (n : Nat) => (names[n]?).getD ""
  let short := fun text : String => String.ofList (text.toList.take 3)
  match letter with
  | 'a' => some (s.word false (short (name weekdays d.weekday)))
  | 'A' => some (s.word false (name weekdays d.weekday))
  | 'b' | 'h' => some (s.word false (short (name months (d.month - 1))))
  | 'B' => some (s.word false (name months (d.month - 1)))
  | 'C' => some (s.number '0' 2 (Int.fdiv d.year 100))
  | 'd' => some (s.number '0' 2 d.day)
  | 'e' => some (s.number '_' 2 d.day)
  | 'g' => some (s.number '0' 2 (Int.fmod d.week.1 100))
  | 'G' => some (s.number '0' 4 d.week.1)
  | 'H' => some (s.number '0' 2 d.hour)
  | 'I' => some (s.number '0' 2 twelve)
  | 'j' => some (s.number '0' 3 d.yearDay)
  | 'k' => some (s.number '_' 2 d.hour)
  | 'l' => some (s.number '_' 2 twelve)
  | 'm' => some (s.number '0' 2 d.month)
  | 'M' => some (s.number '0' 2 d.minute)
  | 'n' => some ['\n']
  | 'N' =>
    let digits := Nat.toDigits 10 d.nano
    let all := List.replicate (9 - digits.length) '0' ++ digits
    some (match s.width with
      | some n => all.take n ++ List.replicate (n - 9) '0'
      | none => all)
  | 'p' => some (s.word true (if d.hour < 12 then "AM" else "PM"))
  | 'P' => some (s.word true (if d.hour < 12 then "am" else "pm"))
  | 'q' => some (s.number '0' 1 ((d.month + 2) / 3 : Nat))
  | 's' => some (s.number '0' 1 (Int.fdiv d.moment Moment.second))
  | 'S' => some (s.number '0' 2 d.second)
  | 't' => some ['\t']
  | 'u' => some (s.number '0' 1 (monday + 1 : Nat))
  | 'U' => some (s.number '0' 2 ((d.yearDay + 6 - d.weekday) / 7 : Nat))
  | 'V' => some (s.number '0' 2 d.week.2)
  | 'w' => some (s.number '0' 1 d.weekday)
  | 'W' => some (s.number '0' 2 ((d.yearDay + 6 - monday) / 7 : Nat))
  | 'y' => some (s.number '0' 2 (Int.fmod d.year 100))
  | 'Y' => some (s.number '0' 4 d.year)
  | 'z' => some "+0000".toList
  | 'Z' => some (s.word true "UTC")
  | '%' => some ['%']
  | _ => none

def takeShape : Nat → Shape → List Char → Shape × List Char
  | 0, s, text => (s, text)
  | fuel + 1, s, c :: rest =>
    if c = '_' || c = '-' || c = '0' || c = '+' then
      takeShape fuel { s with fill := some (if c = '+' then '0' else c) } rest
    else if c = '^' then takeShape fuel { s with capital := true } rest
    else if c = '#' then takeShape fuel { s with swapped := true } rest
    else
      let digits := (c :: rest).takeWhile Char.isDigit
      let after := (c :: rest).drop digits.length
      let after := if after.head? = some 'E' || after.head? = some 'O' then after.tail else after
      ({ s with width := Numeral.natural? digits }, after)
  | _, s, [] => (s, [])

def write (d : Date) : Nat → List Char → List Char
  | 0, _ | _, [] => []
  | fuel + 1, '%' :: rest =>
    let (s, after) := takeShape (rest.length + 1) {} rest
    match after with
    | [] => '%' :: rest
    | ':' :: more =>
      let colons := (':' :: more).takeWhile (· = ':')
      match more.drop (colons.length - 1), colons.length with
      | 'z' :: after, 1 => "+00:00".toList ++ d.write fuel after
      | 'z' :: after, 2 => "+00:00:00".toList ++ d.write fuel after
      | 'z' :: after, 3 => "+00".toList ++ d.write fuel after
      | _, _ => '%' :: ':' :: d.write fuel more
    | letter :: more =>
      match composed.lookup letter, d.part s letter with
      | some format, _ =>
        let text := d.write fuel format.toList
        let text := if s.capital then text.map Char.toUpper else text
        List.replicate ((s.width.getD 0) - text.length) ' ' ++ text ++ d.write fuel more
      | none, some text => text ++ d.write fuel more
      | none, none =>
        ('%' :: rest.take (rest.length - more.length)) ++ d.write fuel more
  | fuel + 1, c :: rest => c :: d.write fuel rest

def format (d : Date) (text : String) : String :=
  String.ofList (d.write (text.length + 40) text.toList)

end Date
end LineShell
