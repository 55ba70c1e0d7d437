/-!
# Dates and times

A `Moment` is a day, a time of day, or both, in which case it may say how far the clock is from
universal time.
-/

namespace WebhookRelay.Toml

/-- A day. -/
structure Day where
  year : Nat
  month : Nat
  day : Nat
  deriving DecidableEq, Repr

/-- A time of day. -/
structure Clock where
  hour : Nat
  minute : Nat
  second : Nat
  /-- the part of a second, in billionths -/
  billionths : Nat := 0
  deriving DecidableEq, Repr

/-- How far a clock is from universal time. -/
inductive Zone where
  /-- the clock shows universal time -/
  | universal
  /-- the clock is ahead by a number of minutes -/
  | ahead (minutes : Int)
  deriving DecidableEq, Repr

/-- A day, a time of day, or both. -/
inductive Moment where
  | day (d : Day)
  | clock (t : Clock)
  | both (d : Day) (t : Clock) (zone : Option Zone)
  deriving DecidableEq, Repr

/-! ## The calendar -/

/-- Whether a year has a 29th of February. -/
def isLeap (year : Nat) : Bool := year % 4 = 0 && (year % 100 ≠ 0 || year % 400 = 0)

/-- How many days a month has. -/
def daysIn (year month : Nat) : Nat :=
  if month = 2 then (if isLeap year then 29 else 28)
  else if month ∈ [4, 6, 9, 11] then 30
  else 31

/-- Whether there is such a day. -/
def Day.isValid (d : Day) : Bool :=
  1 ≤ d.month && d.month ≤ 12 && 1 ≤ d.day && d.day ≤ daysIn d.year d.month

/-- How late a time of day may be, and how far a clock may be from universal time. -/
structure Bounds where
  /-- the last hour of a day -/
  lastHour : Nat
  /-- whether a clock may be so many hours and minutes from universal time -/
  distance : Nat → Nat → Bool

/-- The bounds of dates and times that stand on their own. -/
def Bounds.plain : Bounds := ⟨23, fun hours minutes => hours ≤ 23 && minutes ≤ 59⟩

/-- The bounds of dates and times in texts: a day may end at 24:00, and clocks may be a day apart,
however that is split into hours and minutes. -/
def Bounds.quoted : Bounds := ⟨24, fun hours minutes => 60 * hours + minutes ≤ 24 * 60⟩

/-- Whether there is such a time; a minute may have a leap second. -/
def Clock.isValid (b : Bounds) (t : Clock) : Bool :=
  t.hour ≤ b.lastHour && t.minute ≤ 59 && t.second ≤ 60

/-! ## Printing -/

/-- The last digits of a number, as many as asked for. -/
def lastDigits : Nat → Nat → List Char
  | 0, _ => []
  | width + 1, n => lastDigits width (n / 10) ++ [Char.ofNat (0x30 + n % 10)]

/-- A day as text. -/
def Day.print (d : Day) : List Char :=
  lastDigits 4 d.year ++ '-' :: lastDigits 2 d.month ++ '-' :: lastDigits 2 d.day

/-- A time as text. The part of a second has no zeros at its end, and is left out if there is
none. -/
def Clock.print (t : Clock) : List Char :=
  lastDigits 2 t.hour ++ ':' :: lastDigits 2 t.minute ++ ':' :: lastDigits 2 t.second ++
    if t.billionths = 0 then []
    else '.' :: ((lastDigits 9 t.billionths).reverse.dropWhile (· = '0')).reverse

/-- A distance from universal time as text. -/
def Zone.print : Zone → List Char
  | universal => ['Z']
  | ahead minutes =>
    let m := minutes.natAbs
    (if minutes < 0 then '-' else '+') :: lastDigits 2 (m / 60) ++ ':' :: lastDigits 2 (m % 60)

/-- A moment as text. -/
def Moment.print : Moment → List Char
  | day d => d.print
  | clock t => t.print
  | both d t zone => d.print ++ 'T' :: t.print ++ (zone.map Zone.print).getD []

end WebhookRelay.Toml
