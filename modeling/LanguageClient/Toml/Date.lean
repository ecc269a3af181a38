import LanguageClient.Toml.Scalar

/-!
# Dates of a configuration file

A date may leave out the time of day, or be a time of day alone; only with both can it say how far
the clock is from universal time.  No setting is a date, so the client needs no arithmetic on them,
but it names them in messages and takes them for text, and for that each date has one spelling: a `T`
between day and time, no zeros at the end of a fraction of a second, and a distance of zero with a
plus.

A date stands in a file as it is or, under a reserved key, as a text.  The two readings differ in what
they let pass (`Limits`); `DateTime.read?` is the grammar that they share.
-/

namespace LanguageClient.Toml

open Text (Reader)

structure Day where
  year : Nat
  month : Nat
  day : Nat
  deriving DecidableEq, Repr

structure TimeOfDay where
  hour : Nat
  minute : Nat
  second : Nat
  nanosecond : Nat
  deriving DecidableEq, Repr

/-- How far a clock is from universal time. -/
inductive Offset
  | universal
  | minutes (ahead : Int)
  deriving DecidableEq, Repr

structure DateTime where
  day? : Option Day
  time? : Option TimeOfDay
  offset? : Option Offset
  deriving DecidableEq, Repr

/-! ## Spelling -/

/-- A number with zeros in front up to a width. -/
def padded (width n : Nat) : List Char :=
  let ds := Nat.toDigits 10 n
  List.replicate (width - ds.length) '0' ++ ds

def Day.spell (d : Day) : List Char :=
  padded 4 d.year ++ '-' :: padded 2 d.month ++ '-' :: padded 2 d.day

def TimeOfDay.spell (t : TimeOfDay) : List Char :=
  let fraction := ((padded 9 t.nanosecond).reverse.dropWhile (· = '0')).reverse
  padded 2 t.hour ++ ':' :: padded 2 t.minute ++ ':' :: padded 2 t.second
    ++ (if fraction.isEmpty then [] else '.' :: fraction)

def Offset.spell : Offset → List Char
  | universal => ['Z']
  | minutes n =>
    (if n < 0 then '-' else '+') :: padded 2 (n.natAbs / 60) ++ ':' :: padded 2 (n.natAbs % 60)

def DateTime.render (d : DateTime) : String :=
  String.ofList <| ((d.day?.map (·.spell)).getD [])
    ++ (if d.day?.isSome && d.time?.isSome then ['T'] else [])
    ++ ((d.time?.map (·.spell)).getD []) ++ ((d.offset?.map (·.spell)).getD [])

/-! ## Reading -/

/-- What a reading lets pass beyond what every clock shows. -/
structure Limits where
  lastHour : Nat
  /-- Whether an offset of so many hours and minutes passes. -/
  offset : (hours minutes : Nat) → Bool

namespace Limits

/-- A date that stands in the file as it is. -/
def plain : Limits := ⟨23, fun hours minutes => hours ≤ 23 && minutes ≤ 59⟩

/-- A date given as a text: the end of a day may be its hour 24, and an offset counts in minutes. -/
def quoted : Limits := ⟨24, fun hours minutes => hours * 60 + minutes ≤ 24 * 60⟩

end Limits

/-- Exactly `n` digits. -/
def digitsExactly? (n : Nat) : Reader Nat := fun cs =>
  let ds := cs.take n
  if ds.length = n && ds.all Char.isDigit then some (inBase 10 ds, cs.drop n) else none

def isLeap (year : Nat) : Bool := (year % 4 == 0 && year % 100 != 0) || year % 400 == 0

def daysIn (year month : Nat) : Nat :=
  if month = 2 then (if isLeap year then 29 else 28)
  else if month = 4 || month = 6 || month = 9 || month = 11 then 30
  else 31

def Day.read? : Reader Day := fun cs => do
  let (year, cs) ← digitsExactly? 4 cs
  let ((), cs) ← Reader.word? ['-'] cs
  let (month, cs) ← digitsExactly? 2 cs
  let ((), cs) ← Reader.word? ['-'] cs
  let (day, cs) ← digitsExactly? 2 cs
  if 1 ≤ month && month ≤ 12 && 1 ≤ day && day ≤ daysIn year month then
    return (⟨year, month, day⟩, cs)
  else none

/-- A fraction of a second in billionths; smaller parts are dropped. -/
def nanoseconds : List Char → Nat × List Char
  | '.' :: rest =>
    match rest.span Char.isDigit with
    | ([], _) => (0, '.' :: rest)
    | (ds, rest) =>
      let kept := ds.take 9
      (inBase 10 (kept ++ List.replicate (9 - kept.length) '0'), rest)
  | cs => (0, cs)

def TimeOfDay.read? (limits : Limits) : Reader TimeOfDay := fun cs => do
  let (hour, cs) ← digitsExactly? 2 cs
  let ((), cs) ← Reader.word? [':'] cs
  let (minute, cs) ← digitsExactly? 2 cs
  let ((), cs) ← Reader.word? [':'] cs
  let (second, cs) ← digitsExactly? 2 cs
  let (nanosecond, cs) := nanoseconds cs
  if hour ≤ limits.lastHour && minute ≤ 59 && second ≤ 60 then
    return (⟨hour, minute, second, nanosecond⟩, cs)
  else none

def Offset.read? (limits : Limits) : Reader Offset
  | 'Z' :: rest => some (universal, rest)
  | 'z' :: rest => some (universal, rest)
  | c :: rest =>
    if c = '+' || c = '-' then do
      let (hours, rest) ← digitsExactly? 2 rest
      let ((), rest) ← Reader.word? [':'] rest
      let (mins, rest) ← digitsExactly? 2 rest
      let total : Int := (hours * 60 + mins : Nat)
      if limits.offset hours mins then
        return (.minutes (if c = '-' then -total else total), rest)
      else none
    else none
  | [] => none

/-- A day, a time of day, or both with or without an offset. -/
def DateTime.read? (limits : Limits) : Reader DateTime := fun cs =>
  match Day.read? cs with
  | none => (TimeOfDay.read? limits cs).map fun (t, rest) => (⟨none, some t, none⟩, rest)
  | some (day, rest) =>
    match rest with
    | c :: after =>
      if c = 'T' || c = 't' || c = ' ' then
        match TimeOfDay.read? limits after with
        | none => some (⟨some day, none, none⟩, rest)
        | some (time, rest) =>
          match Offset.read? limits rest with
          | none => some (⟨some day, some time, none⟩, rest)
          | some (zone, rest) => some (⟨some day, some time, some zone⟩, rest)
      else some (⟨some day, none, none⟩, rest)
    | [] => some (⟨some day, none, none⟩, rest)

/-- The date that a whole text gives. -/
def DateTime.ofText? (text : String) : Option DateTime :=
  match DateTime.read? .quoted text.toList with
  | some (d, []) => some d
  | _ => none

end LanguageClient.Toml
