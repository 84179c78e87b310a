import Casebook.Proofs.Text.Trimming
import Casebook.Proofs.Time.Calendar
import Casebook.Proofs.Time.RoundTrip
import Mathlib.Data.List.Induction

/-!
# Timestamps of sources

What a source may write for an instant of a year with four digits: the day and the time of day with or
without a fraction, and behind them nothing, the letter `Z` or an offset. Nothing and `Z` mean the same,
an offset is taken off in whole minutes, and all else stays, also the leap second. The written form of
an instant is among these texts and is read as that instant.
-/

namespace Casebook

namespace Instant

open Decimal (padded isDigit value)
open Text (isBlank isBlank_of_isDigit)

/-! ### Stamps and offsets -/

/-- A day of a year with four digits and a time of that day, as they are written. -/
structure Stamp where
  year : Nat
  month : Nat
  day : Nat
  hour : Nat
  minute : Nat
  second : Nat
  /-- The digits behind the point; without any there is no point. -/
  fraction : List Char
  year_le : year ≤ 9999
  isOfCalendar : Date.IsOfCalendar ⟨year, month, day⟩
  hour_lt : hour < 24
  minute_lt : minute < 60
  second_le : second ≤ 60
  areDigits : ∀ c ∈ fraction, isDigit c = true

/-- The day and the time of day in fields of fixed widths. -/
def dayAndTime (year month day hour minute second : Nat) : List Char :=
  padded 4 year ++ '-' :: padded 2 month ++ '-' :: padded 2 day ++
    'T' :: padded 2 hour ++ ':' :: padded 2 minute ++ ':' :: padded 2 second

def pointed (ds : List Char) : List Char :=
  if ds = [] then [] else '.' :: ds

namespace Stamp

def chars (w : Stamp) : List Char :=
  dayAndTime w.year w.month w.day w.hour w.minute w.second ++ pointed w.fraction

/-- The whole nanoseconds of the fraction. -/
def nanos (w : Stamp) : Nat :=
  value w.fraction * Span.perSecond / Nat.pow 10 w.fraction.length

/-- What a stamp stands for in UTC: the second of sixty is the leap second behind the fifty-ninth. -/
structure Means (w : Stamp) (t : Instant) : Prop where
  date : t.date = ⟨w.year, w.month, w.day⟩
  secondOfDay : t.secondOfDay = w.hour * 3600 + w.minute * 60 + min w.second 59
  nanos : t.nanos = w.nanos + if w.second = 60 then Span.perSecond else 0

end Stamp

inductive Sign where
  | plus
  | hyphen
  /-- The minus sign proper. -/
  | minus
  deriving DecidableEq

namespace Sign

def char : Sign → Char
  | .plus => '+'
  | .hyphen => '-'
  | .minus => minusSign

def apply (n : Nat) : Sign → Int
  | .plus => n
  | .hyphen => -n
  | .minus => -n

end Sign

structure Offset where
  sign : Sign
  hours : Nat
  minutes : Nat
  hours_lt : hours < 24
  minutes_lt : minutes < 60

namespace Offset

def chars (o : Offset) : List Char :=
  o.sign.char :: padded 2 o.hours ++ ':' :: padded 2 o.minutes

def inMinutes (o : Offset) : Int :=
  o.sign.apply (o.hours * 60 + o.minutes)

end Offset

/-! ### Fractions of any length -/

theorem value_append (ds es : List Char) :
    value (ds ++ es) = value ds * Nat.pow 10 es.length + value es := by
  induction es using List.reverseRecOn with
  | nil => simp [value]
  | append_singleton es c ih =>
    rw [← List.append_assoc, Decimal.value_concat, Decimal.value_concat, ih, List.length_append]
    have power : Nat.pow 10 (es.length + [c].length) = Nat.pow 10 es.length * 10 := rfl
    rw [power, Nat.add_mul, Nat.mul_assoc, Nat.add_assoc]

theorem value_lt (ds : List Char) : value ds < Nat.pow 10 ds.length := by
  induction ds using List.reverseRecOn with
  | nil => decide
  | append_singleton ds c ih =>
    have digit : (Decimal.digitValue? c).getD 0 < 10 := by
      rw [Decimal.digitValue?]
      split
      next h =>
        have bounds : '0'.toNat ≤ c.toNat ∧ c.toNat ≤ '9'.toNat := by simpa using h
        have zero : '0'.toNat = 48 := rfl
        have nine : '9'.toNat = 57 := rfl
        simp only [Option.getD_some]
        omega
      next => decide
    have power : Nat.pow 10 (ds ++ [c]).length = Nat.pow 10 ds.length * 10 := by
      rw [List.length_append]
      rfl
    rw [Decimal.value_concat, power]
    omega

/-- Digits beyond the ninth only make a rest of a nanosecond. -/
theorem nanos_eq (ds : List Char) :
    value ds * Span.perSecond / Nat.pow 10 ds.length =
      value (ds.take 9) * Nat.pow 10 (9 - (ds.take 9).length) := by
  have second : Span.perSecond = Nat.pow 10 9 := rfl
  have powers : ∀ a b, Nat.pow 10 (a + b) = Nat.pow 10 a * Nat.pow 10 b := Nat.pow_add 10
  by_cases few : ds.length ≤ 9
  · have scale : Nat.pow 10 9 = Nat.pow 10 (9 - ds.length) * Nat.pow 10 ds.length := by
      rw [← powers, Nat.sub_add_cancel few]
    rw [List.take_of_length_le few, second, scale, ← Nat.mul_assoc]
    exact Nat.mul_div_cancel _ (Nat.pow_pos (by decide))
  · have front : (ds.take 9).length = 9 := by
      rw [List.length_take]
      omega
    have scale : Nat.pow 10 ds.length = Nat.pow 10 (ds.drop 9).length * Nat.pow 10 9 := by
      rw [← powers, List.length_drop, Nat.sub_add_cancel (by omega)]
    have rest := value_lt (ds.drop 9)
    have parts := value_append (ds.take 9) (ds.drop 9)
    rw [List.take_append_drop] at parts
    have positive : 0 < Nat.pow 10 (ds.drop 9).length := Nat.pow_pos (by decide)
    rw [second, scale, Nat.mul_div_mul_right _ _ (by decide), parts, front, Nat.mul_comm,
      Nat.mul_add_div positive, Nat.div_eq_of_lt rest]
    exact (Nat.mul_one _).symm

theorem nanos_lt (ds : List Char) :
    value ds * Span.perSecond / Nat.pow 10 ds.length < Span.perSecond := by
  refine Nat.div_lt_of_lt_mul ?_
  exact Nat.mul_lt_mul_of_pos_right (value_lt ds) (by decide)

theorem fraction?_pointed {ds : List Char} (rest : List Char) (digits : ∀ c ∈ ds, isDigit c = true)
    (next : ∀ c ∈ rest.head?, isDigit c = false ∧ c ≠ '.') :
    fraction? (pointed ds ++ rest) =
      some (value ds * Span.perSecond / Nat.pow 10 ds.length, rest) := by
  rw [pointed]
  split
  next none =>
    subst none
    rw [List.nil_append, fraction?]
    · rfl
    · rintro r rfl
      exact (next '.' rfl).2 rfl
  next some =>
    have front : ((ds ++ rest).take 9).takeWhile isDigit = ds.take 9 := by
      rw [List.take_append]
      refine takeWhile_isDigit_append (fun c hc => digits c (List.mem_of_mem_take hc)) ?_
      intro c hc
      refine (next c ?_).1
      rw [List.head?_take] at hc
      split at hc
      · cases hc
      · exact hc
    have back : (ds ++ rest).dropWhile isDigit = rest := by
      rw [List.dropWhile_append_of_pos digits]
      cases rest with
      | nil => rfl
      | cons c r => rw [List.dropWhile_cons, (next c rfl).1]; rfl
    have nonempty : (ds.take 9).isEmpty = false := by
      cases ds with
      | nil => exact absurd rfl some
      | cons c r => rfl
    rw [List.cons_append, fraction?]
    simp only [front, back, nonempty, Bool.false_eq_true, if_false, nanos_eq]

/-! ### Both forms read the fields -/

theorem char?_self (c : Char) (r : List Char) : char? c (c :: r) = some r := if_pos rfl

theorem bind_of_eq_some {α β : Type} {x : Option α} {a : α} (h : x = some a) (f : α → Option β) :
    (x >>= f) = f a := by
  rw [h]
  rfl

section
variable {year month day hour minute second nanos : Nat} {tail rest : List Char}

theorem dayAndTime_append (year month day hour minute second : Nat) (tail : List Char) :
    dayAndTime year month day hour minute second ++ tail =
      padded 4 year ++ '-' :: (padded 2 month ++ '-' :: (padded 2 day ++ 'T' :: (padded 2 hour ++
        ':' :: (padded 2 minute ++ ':' :: (padded 2 second ++ tail))))) := by
  simp only [dayAndTime, List.append_assoc, List.cons_append]

theorem strict?_dayAndTime (hy : year < 10000) (hmonth : month < 100) (hday : day < 100)
    (hhour : hour < 100) (hminute : minute < 100) (hsecond : second < 100)
    (fraction : fraction? tail = some (nanos, rest)) :
    strict? (dayAndTime year month day hour minute second ++ tail) =
      (offset? (char? ':') rest).bind fun p =>
        if p.2.isEmpty then
          Fields.at? ⟨⟨year, month, day⟩, hour, minute, second, nanos⟩ p.1
        else none := by
  have two : ∀ (n : Nat) (r : List Char), n < 100 → digits? 2 2 (padded 2 n ++ r) = some (n, r) :=
    fun n r h => digits?_padded r (by decide) (by decide) h
  have four : ∀ r : List Char, digits? 4 4 (padded 4 year ++ r) = some (year, r) :=
    fun r => digits?_padded r (by decide) (by decide) hy
  have letter : ∀ r : List Char, oneOf? ['T', 't', ' '] ('T' :: r) = some r := fun _ => rfl
  rw [dayAndTime_append, strict?]
  -- Each field is taken from the front before what follows it is looked at.
  simp only [↓bind_of_eq_some (four _), ↓bind_of_eq_some (char?_self _ _),
    ↓bind_of_eq_some (letter _), ↓bind_of_eq_some (two _ _ hmonth), ↓bind_of_eq_some (two _ _ hday),
    ↓bind_of_eq_some (two _ _ hhour), ↓bind_of_eq_some (two _ _ hminute),
    ↓bind_of_eq_some (two _ _ hsecond), ↓bind_of_eq_some fraction]
  rfl

theorem local?_dayAndTime (hy : year ≤ 9999) (hmonth : month < 100) (hday : day < 100)
    (hhour : hour < 100) (hminute : minute < 100) (hsecond : second < 100)
    (fraction : fraction? tail = some (nanos, [])) :
    local? (dayAndTime year month day hour minute second ++ tail) =
      Fields.at? ⟨⟨year, month, day⟩, hour, minute, second, nanos⟩ 0 := by
  have four : ∀ r : List Char, year? (padded 4 year ++ '-' :: r) = some ((year : Int), '-' :: r) := by
    intro r
    have plain : yearText year = padded 4 year := by
      rw [yearText, if_pos (by simp; omega)]
      rfl
    rw [← plain]
    exact year?_yearText year r (by decide)
  have fields : fields? id (char? 'T') (dayAndTime year month day hour minute second ++ tail) =
      some (⟨⟨year, month, day⟩, hour, minute, second, nanos⟩, []) := by
    rw [dayAndTime_append, fields?]
    simp only [id_eq, ↓bind_of_eq_some (four _), ↓bind_of_eq_some (char?_self _ _),
      ↓bind_of_eq_some (short?_padded _ hmonth), ↓bind_of_eq_some (short?_padded _ hday),
      ↓bind_of_eq_some (short?_padded _ hhour), ↓bind_of_eq_some (short?_padded _ hminute),
      ↓bind_of_eq_some (short?_padded _ hsecond), ↓bind_of_eq_some fraction]
  rw [local?, bind_of_eq_some fields]
  rfl

end

/-! ### Offsets -/

theorem offset?_chars (o : Offset) : offset? (char? ':') o.chars = some (o.inMinutes, []) := by
  have hours : o.hours < Nat.pow 10 2 := Nat.lt_of_lt_of_le o.hours_lt (by decide)
  have minutes : o.minutes < Nat.pow 10 2 := Nat.lt_of_lt_of_le o.minutes_lt (by decide)
  have first (r : List Char) : digits? 2 2 (padded 2 o.hours ++ r) = some (o.hours, r) :=
    digits?_padded r (by decide) (by decide) hours
  have last : digits? 2 2 (padded 2 o.minutes ++ []) = some (o.minutes, []) :=
    digits?_padded [] (by decide) (by decide) minutes
  rw [List.append_nil] at last
  have read : offsetDigits? (char? ':') (padded 2 o.hours ++ ':' :: padded 2 o.minutes) =
      some (o.hours * 60 + o.minutes, []) := by
    simp only [offsetDigits?, first, last, char?, Option.bind_eq_bind, Option.bind_some, if_true,
      o.hours_lt, o.minutes_lt, decide_true, Bool.and_self]
  rw [Offset.chars, Offset.inMinutes]
  cases o.sign with
  | plus => simp [offset?, Sign.char, Sign.apply, read]
  | hyphen => simp [offset?, Sign.char, Sign.apply, read]
  | minus => simp [offset?, Sign.char, Sign.apply, read, minusSign]

theorem inMinutes_bounds (o : Offset) : -1440 < o.inMinutes ∧ o.inMinutes < 1440 := by
  have hours := o.hours_lt
  have minutes := o.minutes_lt
  rw [Offset.inMinutes]
  cases o.sign <;> simp only [Sign.apply] <;> omega

/-! ### Instants of four-digit years -/

/-- The days of four-digit years are far from the ends of what instants reach. -/
theorem number_bounds {year month day : Nat} (four : year ≤ 9999)
    (named : Date.IsOfCalendar ⟨year, month, day⟩) :
    -1000000 < Date.number ⟨year, month, day⟩ ∧ Date.number ⟨year, month, day⟩ < 10000000 := by
  obtain ⟨first, last, hd, hd'⟩ := named
  simp only at first last hd hd'
  have short := Date.daysIn_le year month
  simp only [Date.number, Date.daysOfYears, Date.daysOfMonths, Date.cycle, Date.epochOffset]
  split <;> omega

namespace Stamp

variable (w : Stamp)

def fields : Fields :=
  ⟨⟨w.year, w.month, w.day⟩, w.hour, w.minute, w.second, w.nanos⟩

def seconds : Int :=
  Date.number ⟨w.year, w.month, w.day⟩ * perDay +
    (w.hour * 3600 + w.minute * 60 + min w.second 59 : Nat)

theorem isTime {minutes : Int} (low : -1440 < minutes) (high : minutes < 1440) :
    IsTime (w.seconds - minutes * 60) (w.nanos + if w.second = 60 then Span.perSecond else 0) := by
  have first : firstSecond = -8334601228800 := by decide
  have last : lastSecond = 8210266876799 := by decide
  have day : (perDay : Int) = 86400 := rfl
  have second : Span.perSecond = 1000000000 := rfl
  have nanos : w.nanos < Span.perSecond := nanos_lt w.fraction
  have days := number_bounds w.year_le w.isOfCalendar
  have hour := w.hour_lt
  have minute := w.minute_lt
  have sixty := w.second_le
  simp only [IsTime, Stamp.seconds, first, last, day]
  split <;> omega

theorem at?_fields {minutes : Int} (low : -1440 < minutes) (high : minutes < 1440) :
    w.fields.at? minutes = some ⟨_, _, w.isTime low high⟩ := by
  have valid := (Date.isValid_iff_isOfCalendar _).2 w.isOfCalendar
  have first : firstYear ≤ (w.year : Int) := by
    have := show firstYear = -262143 from rfl
    omega
  have last : (w.year : Int) ≤ lastYear := by
    have := w.year_le
    have := show lastYear = 262142 from rfl
    omega
  have total : w.seconds - minutes * 60 = Date.number ⟨w.year, w.month, w.day⟩ * perDay +
      w.hour * 3600 + w.minute * 60 + (if w.second = 60 then 59 else w.second : Nat) - minutes * 60 := by
    have sixty := w.second_le
    simp only [Stamp.seconds]
    split <;> omega
  have time := w.isTime low high
  rw [total] at time
  simp only [Fields.at?, fields, valid, first, last, w.hour_lt, w.minute_lt, w.second_le, decide_true,
    Bool.and_self, if_true, of?, total]
  exact dif_pos time

/-- What is read of a stamp with nothing or with `Z` behind it. -/
def instant : Instant :=
  ⟨w.seconds - 0 * 60, _, w.isTime (by decide) (by decide)⟩

theorem instant_day : w.instant.seconds / perDay = Date.number ⟨w.year, w.month, w.day⟩ ∧
    w.instant.seconds % perDay = (w.hour * 3600 + w.minute * 60 + min w.second 59 : Nat) := by
  have day : (perDay : Int) = 86400 := rfl
  have hour := w.hour_lt
  have minute := w.minute_lt
  simp only [instant, Stamp.seconds, day]
  omega

theorem means_instant : w.Means w.instant where
  date := by
    rw [Instant.date, w.instant_day.1]
    exact of_decide_eq_true ((Date.isValid_iff_isOfCalendar _).2 w.isOfCalendar)
  secondOfDay := by
    rw [Instant.secondOfDay, w.instant_day.2]
    rfl
  nanos := rfl

end Stamp

/-! ### Texts without blanks -/

theorem notBlank_padded (width n : Nat) : ∀ c ∈ padded width n, isBlank c = false :=
  fun _ hc => isBlank_of_isDigit (Decimal.isDigit_of_mem_padded hc)

theorem notBlank_dayAndTime (year month day hour minute second : Nat) :
    ∀ c ∈ dayAndTime year month day hour minute second, isBlank c = false := by
  have dash : isBlank '-' = false := by decide
  have letter : isBlank 'T' = false := by decide
  have colon : isBlank ':' = false := by decide
  simp only [dayAndTime, List.append_assoc, List.cons_append, List.forall_mem_append,
    List.forall_mem_cons, dash, letter, colon, true_and]
  exact ⟨notBlank_padded _ _, notBlank_padded _ _, notBlank_padded _ _, notBlank_padded _ _,
    notBlank_padded _ _, notBlank_padded _ _⟩

theorem notBlank_pointed {ds : List Char} (digits : ∀ c ∈ ds, isDigit c = true) :
    ∀ c ∈ pointed ds, isBlank c = false := by
  intro c hc
  rw [pointed] at hc
  split at hc
  · cases hc
  · rcases List.mem_cons.1 hc with rfl | hc
    · decide
    · exact isBlank_of_isDigit (digits c hc)

theorem notBlank_fractionText (nanos : Nat) : ∀ c ∈ fractionText nanos, isBlank c = false := by
  have point : isBlank '.' = false := by decide
  rw [fractionText]
  split
  · exact List.forall_mem_nil _
  split
  · exact List.forall_mem_cons.2 ⟨point, notBlank_padded _ _⟩
  split
  · exact List.forall_mem_cons.2 ⟨point, notBlank_padded _ _⟩
  · exact List.forall_mem_cons.2 ⟨point, notBlank_padded _ _⟩

theorem Offset.notBlank_chars (o : Offset) : ∀ c ∈ o.chars, isBlank c = false := by
  have sign : isBlank o.sign.char = false := by
    cases o.sign <;> decide
  have colon : isBlank ':' = false := by decide
  simp only [Offset.chars, List.cons_append, List.forall_mem_append, List.forall_mem_cons, sign, colon,
    true_and]
  exact ⟨notBlank_padded _ _, notBlank_padded _ _⟩

theorem read?_of_forall {s : List Char} (h : ∀ c ∈ s, isBlank c = false) :
    read? s = (strict? s).orElse fun _ => local? s := by
  rw [read?, Text.trim_of_forall h]

/-! ### Stamps are read -/

namespace Stamp

variable (w : Stamp)

theorem notBlank_chars : ∀ c ∈ w.chars, isBlank c = false :=
  List.forall_mem_append.2 ⟨notBlank_dayAndTime _ _ _ _ _ _, notBlank_pointed w.areDigits⟩

theorem day_lt : w.day < 100 := by
  have last := w.isOfCalendar.2.2.2
  have short : Date.daysIn w.year w.month ≤ 31 := Date.daysIn_le _ _
  exact Nat.lt_of_le_of_lt (Nat.le_trans last short) (by decide)

theorem month_lt : w.month < 100 :=
  Nat.lt_of_le_of_lt w.isOfCalendar.2.1 (by decide)

/-- A stamp with something behind it that starts with no digit and no point. -/
theorem strict?_chars (rest : List Char) (next : ∀ c ∈ rest.head?, isDigit c = false ∧ c ≠ '.') :
    strict? (w.chars ++ rest) = (offset? (char? ':') rest).bind fun p =>
      if p.2.isEmpty then w.fields.at? p.1 else none := by
  have year := Nat.lt_succ_of_le w.year_le
  have hour := Nat.lt_trans w.hour_lt (by decide : 24 < 100)
  have minute := Nat.lt_trans w.minute_lt (by decide : 60 < 100)
  have second := Nat.lt_of_le_of_lt w.second_le (by decide : 60 < 100)
  rw [chars, List.append_assoc]
  exact strict?_dayAndTime year w.month_lt w.day_lt hour minute second
    (fraction?_pointed rest w.areDigits next)

theorem read?_chars : read? w.chars = some w.instant := by
  have year := w.year_le
  have hour := Nat.lt_trans w.hour_lt (by decide : 24 < 100)
  have minute := Nat.lt_trans w.minute_lt (by decide : 60 < 100)
  have second := Nat.lt_of_le_of_lt w.second_le (by decide : 60 < 100)
  have refused : strict? w.chars = none := by
    have strict := w.strict?_chars [] (fun c hc => (nomatch hc))
    rwa [List.append_nil] at strict
  have fraction := fraction?_pointed [] w.areDigits (fun c hc => (nomatch hc))
  rw [List.append_nil] at fraction
  rw [read?_of_forall w.notBlank_chars, refused]
  exact (local?_dayAndTime year w.month_lt w.day_lt hour minute second fraction).trans
    (w.at?_fields (by decide) (by decide))

theorem read?_utc : read? (w.chars ++ ['Z']) = some w.instant := by
  have zulu : ∀ c ∈ ['Z'].head?, isDigit c = false ∧ c ≠ '.' := by
    rintro c ⟨⟩
    decide
  have strict := w.strict?_chars ['Z'] zulu
  have blank : ∀ c ∈ w.chars ++ ['Z'], isBlank c = false :=
    List.forall_mem_append.2 ⟨w.notBlank_chars, List.forall_mem_singleton.2 (by decide)⟩
  rw [read?_of_forall blank, strict]
  exact congrArg (Option.orElse · _) (w.at?_fields (by decide : (-1440 : Int) < 0) (by decide))

theorem read?_offset (o : Offset) : ∃ t, read? (w.chars ++ o.chars) = some t ∧
    t.seconds = w.instant.seconds - o.inMinutes * 60 ∧ t.nanos = w.instant.nanos := by
  have next : ∀ c ∈ o.chars.head?, isDigit c = false ∧ c ≠ '.' := by
    rintro c ⟨⟩
    cases o.sign <;> decide
  have blank : ∀ c ∈ w.chars ++ o.chars, isBlank c = false :=
    List.forall_mem_append.2 ⟨w.notBlank_chars, o.notBlank_chars⟩
  obtain ⟨low, high⟩ := inMinutes_bounds o
  refine ⟨⟨_, _, w.isTime low high⟩, ?_, ?_, rfl⟩
  · rw [read?_of_forall blank, w.strict?_chars o.chars next, offset?_chars]
    exact congrArg (Option.orElse · _) (w.at?_fields low high)
  · simp only [instant]
    omega

end Stamp

/-! ### Written instants are read -/

theorem chars_of_four_digits {t : Instant} (first : 0 ≤ t.date.year) (last : t.date.year ≤ 9999) :
    t.chars = dayAndTime t.date.year.natAbs t.date.month t.date.day (t.secondOfDay / 3600)
        (t.secondOfDay / 60 % 60) (t.secondOfDay % 60 + if t.isLeap then 1 else 0) ++
      (fractionText (if t.isLeap then t.nanos - Span.perSecond else t.nanos) ++ ['Z']) := by
  rw [Instant.chars, yearText, if_pos (by simp [first, last])]
  simp only [dayAndTime, List.append_assoc, List.cons_append]

theorem read?_written {t : Instant} (first : 0 ≤ t.date.year) (last : t.date.year ≤ 9999) :
    read? t.chars = some t := by
  have bounds : t.date.month < 100 ∧ t.date.day < 100 := Date.ofNumber_bounds (t.seconds / perDay)
  have time := secondOfDay_lt t
  have second : t.secondOfDay % 60 + (if t.isLeap then 1 else 0) < 100 := by
    split <;> omega
  have fraction := fraction?_fractionText (c := 'Z') [] (part_lt t) (by decide) (by decide)
  have year : ((t.date.year.natAbs : Nat) : Int) = t.date.year := Int.natAbs_of_nonneg first
  have four : t.date.year.natAbs < 10000 := by omega
  have hour : t.secondOfDay / 3600 < 100 := by omega
  have minute : t.secondOfDay / 60 % 60 < 100 := by omega
  have strict := strict?_dayAndTime four bounds.1 bounds.2 hour minute second fraction
  rw [← chars_of_four_digits first last, year] at strict
  have blank : ∀ c ∈ t.chars, isBlank c = false := by
    rw [chars_of_four_digits first last]
    refine List.forall_mem_append.2 ⟨notBlank_dayAndTime _ _ _ _ _ _, ?_⟩
    exact List.forall_mem_append.2 ⟨notBlank_fractionText _, List.forall_mem_singleton.2 (by decide)⟩
  rw [read?_of_forall blank, strict]
  exact congrArg (Option.orElse · _) (at?_fieldsOf t)

/-! ### What a source may write -/

/-- Every stamp is read, and so is what is written for an instant of a year with four digits. -/
theorem read?_normalizes :
    (∀ w : Stamp, ∃ t, w.Means t ∧ read? w.chars = some t ∧ read? (w.chars ++ ['Z']) = some t ∧
      ∀ o : Offset, ∃ t', read? (w.chars ++ o.chars) = some t' ∧
        t'.seconds = t.seconds - o.inMinutes * 60 ∧ t'.nanos = t.nanos) ∧
    (∀ t : Instant, 0 ≤ t.date.year → t.date.year ≤ 9999 → read? t.chars = some t) := by
  constructor
  · intro w
    exact ⟨w.instant, w.means_instant, w.read?_chars, w.read?_utc, w.read?_offset⟩
  · intro t first last
    exact read?_written first last

/-- The last second that a stamp can name; it is a leap second and has a digit too many. -/
def farewell : Stamp where
  year := 9999
  month := 12
  day := 31
  hour := 23
  minute := 59
  second := 60
  fraction := ['9', '8', '7', '6', '5', '4', '3', '2', '1', '9']
  year_le := by decide
  isOfCalendar := by decide
  hour_lt := by decide
  minute_lt := by decide
  second_le := by decide
  areDigits := List.all_eq_true.1 (by decide)

def westernmost : Offset := ⟨.hyphen, 23, 59, by decide, by decide⟩

theorem read?_normalizes_farewell :
    read? "9999-12-31T23:59:60.9876543219".toList = some farewell.instant ∧
      (∃ t, read? "9999-12-31T23:59:60.9876543219-23:59".toList = some t ∧
        t.date = ⟨10000, 1, 1⟩ ∧ t.nanos = 1987654321) ∧
      0 ≤ farewell.instant.date.year ∧ farewell.instant.date.year ≤ 9999 ∧
      read? farewell.instant.chars = some farewell.instant := by
  have text : farewell.chars = "9999-12-31T23:59:60.9876543219".toList := by decide
  have zoned : farewell.chars ++ westernmost.chars =
      "9999-12-31T23:59:60.9876543219-23:59".toList := by decide
  obtain ⟨t, means, plain, -, shifted⟩ := read?_normalizes.1 farewell
  obtain ⟨t', read, seconds, nanos⟩ := shifted westernmost
  have same : t = farewell.instant := Option.some_inj.1 (plain.symm.trans farewell.read?_chars)
  subst same
  rw [text] at plain
  rw [zoned] at read
  have date : t'.date = ⟨10000, 1, 1⟩ := by
    rw [Instant.date, seconds]
    decide
  have year : farewell.instant.date.year = 9999 := by
    rw [means.date]
    rfl
  have first : 0 ≤ farewell.instant.date.year := by omega
  have last : farewell.instant.date.year ≤ 9999 := by omega
  exact ⟨plain, ⟨t', read, date, nanos⟩, first, last, read?_normalizes.2 _ first last⟩

end Instant
end Casebook
