import Casebook.Proofs.Decimal.Digits
import Casebook.Proofs.Text.Trimming
import Casebook.Time.Format
import Casebook.Time.Reader

/-!
# Written instants read back

Every instant that there is, also one of a year with a sign and one within a leap second, is read back
from its text. Each field is read from its own digits whatever follows; the instant is then put
together from a day, a second of that day and a part of a second.
-/

namespace Casebook

/-! ### Days -/

namespace Date

theorem ofParts_bounds {c y s : Int} (hs : 0 ≤ s ∧ s ≤ 365) :
    (ofParts c y s).month < 100 ∧ (ofParts c y s).day < 100 := by
  simp only [ofParts, daysOfMonths]
  split <;> omega

theorem ofNumber_bounds (n : Int) : (ofNumber n).month < 100 ∧ (ofNumber n).day < 100 := by
  have hr : 0 ≤ (n + epochOffset) % cycle := Int.emod_nonneg _ (by decide)
  have hr' : (n + epochOffset) % cycle < 146097 := Int.emod_lt_of_pos _ (by decide)
  exact ofParts_bounds (daysOfYears_yearOfDay hr hr')

/-- A day is the `s`-th of the year `y` of a cycle, and the calendar year begins within that year. -/
theorem year_ofNumber (n : Int) : ∃ c y s e : Int,
    n + epochOffset = cycle * c + daysOfYears y + s ∧ (0 ≤ y ∧ y < 400) ∧ (0 ≤ s ∧ s ≤ 365) ∧
      (ofNumber n).year = c * 400 + y + e ∧ (e = 1 ∧ 306 ≤ s ∨ e = 0 ∧ s < 306) := by
  have hr : 0 ≤ (n + epochOffset) % cycle := Int.emod_nonneg _ (by decide)
  have hr' : (n + epochOffset) % cycle < 146097 := Int.emod_lt_of_pos _ (by decide)
  have hdiv := Int.emod_add_mul_ediv (n + epochOffset) cycle
  refine ⟨(n + epochOffset) / cycle, yearOfDay ((n + epochOffset) % cycle), _, _,
    ?_, yearOfDay_bounds hr hr', daysOfYears_yearOfDay hr hr', rfl, ?_⟩
  · omega
  · split <;> omega

theorem firstYear_le_year {n : Int} (h : number ⟨Instant.firstYear, 1, 1⟩ ≤ n) :
    Instant.firstYear ≤ (ofNumber n).year := by
  have first : number ⟨Instant.firstYear, 1, 1⟩ = -96465292 := rfl
  have year : Instant.firstYear = -262143 := rfl
  obtain ⟨c, y, s, e, hn, hy, hs, hyear, he⟩ := year_ofNumber n
  rw [first] at h
  rw [hyear, year]
  simp only [daysOfYears, epochOffset, cycle] at hn
  omega

theorem year_le_lastYear {n : Int} (h : n ≤ number ⟨Instant.lastYear, 12, 31⟩) :
    (ofNumber n).year ≤ Instant.lastYear := by
  have last : number ⟨Instant.lastYear, 12, 31⟩ = 95026236 := rfl
  have year : Instant.lastYear = 262142 := rfl
  obtain ⟨c, y, s, e, hn, hy, hs, hyear, he⟩ := year_ofNumber n
  rw [last] at h
  rw [hyear, year]
  simp only [daysOfYears, epochOffset, cycle] at hn
  omega

end Date

namespace Instant

open Decimal (padded isDigit)
open Text (trimLeft isBlank isBlank_of_isDigit)

/-! ### Fields -/

theorem takeWhile_isDigit_append {ds r : List Char} (hd : ∀ c ∈ ds, isDigit c = true)
    (hr : ∀ c ∈ r.head?, isDigit c = false) : (ds ++ r).takeWhile isDigit = ds := by
  rw [List.takeWhile_append_of_pos hd]
  cases r with
  | nil => simp
  | cons c r => simp [hr c (by simp)]

theorem takeWhile_take_append {most : Nat} {ds r : List Char} (hd : ∀ c ∈ ds, isDigit c = true)
    (hm : ds.length ≤ most) (hr : ds.length = most ∨ ∀ c ∈ r.head?, isDigit c = false) :
    ((ds ++ r).take most).takeWhile isDigit = ds := by
  rw [List.take_append, List.take_of_length_le hm]
  refine takeWhile_isDigit_append hd ?_
  intro c hc
  rcases hr with hr | hr
  · simp [hr] at hc
  · refine hr c ?_
    cases r with
    | nil => simp at hc
    | cons d r =>
      cases hk : most - ds.length with
      | zero => simp [hk] at hc
      | succ k => simpa [hk] using hc

theorem digits?_append {least most : Nat} {ds r : List Char} (hd : ∀ c ∈ ds, isDigit c = true)
    (hl : least ≤ ds.length) (hm : ds.length ≤ most)
    (hr : ds.length = most ∨ ∀ c ∈ r.head?, isDigit c = false) :
    digits? least most (ds ++ r) = some (Decimal.value ds, r) := by
  rw [digits?, takeWhile_take_append hd hm hr]
  simp [Nat.not_lt.2 hl]

theorem digits?_padded {least width n : Nat} (r : List Char) (hw : 0 < width)
    (hl : least ≤ width) (h : n < Nat.pow 10 width) :
    digits? least width (padded width n ++ r) = some (n, r) := by
  have hlen := Decimal.padded_length hw h
  rw [digits?_append (fun c => Decimal.isDigit_of_mem_padded) (by omega) (by omega) (.inl hlen),
    Decimal.value_padded]

theorem trimLeft_cons {c : Char} (r : List Char) (h : isBlank c = false) :
    trimLeft (c :: r) = c :: r := by
  simp [trimLeft, h]

theorem padded_eq_cons (width n : Nat) :
    ∃ c ds, padded width n = c :: ds ∧ isDigit c = true := by
  cases hp : padded width n with
  | nil =>
    have hd := Decimal.digits_ne_nil n
    simp [padded, hd] at hp
  | cons c ds =>
    exact ⟨c, ds, rfl, Decimal.isDigit_of_mem_padded (hp ▸ List.mem_cons_self)⟩

theorem trimLeft_padded (width n : Nat) (r : List Char) :
    trimLeft (padded width n ++ r) = padded width n ++ r := by
  obtain ⟨c, ds, hp, hc⟩ := padded_eq_cons width n
  rw [hp]
  exact trimLeft_cons _ (isBlank_of_isDigit hc)

theorem short?_padded {n : Nat} (r : List Char) (h : n < 100) :
    short? (padded 2 n ++ r) = some (n, r) := by
  rw [short?, trimLeft_padded]
  exact digits?_padded r (by decide) (by decide) h

theorem year?_yearText (y : Int) {c : Char} (r : List Char) (hc : isDigit c = false) :
    year? (yearText y ++ c :: r) = some (y, c :: r) := by
  have signed : ∀ n : Nat, digits? 1 (padded 4 n ++ c :: r).length (padded 4 n ++ c :: r) =
      some (n, c :: r) := by
    intro n
    have hw := Decimal.width_le_padded_length 4 n
    rw [digits?_append (fun c => Decimal.isDigit_of_mem_padded) (by omega) (by simp)
      (.inr (by simpa using hc)), Decimal.value_padded]
  simp only [yearText]
  split
  next h =>
    simp only [Bool.and_eq_true, decide_eq_true_eq] at h
    have small : y.natAbs < Nat.pow 10 4 := by
      have : Nat.pow 10 4 = 10000 := rfl
      omega
    have plain : digits? 1 4 (padded 4 y.natAbs ++ c :: r) = some (y.natAbs, c :: r) :=
      digits?_padded (c :: r) (by decide) (by decide) small
    have habs : (y.natAbs : Int) = y := Int.natAbs_of_nonneg h.1
    obtain ⟨d, ds, hp, hd⟩ := padded_eq_cons 4 y.natAbs
    rw [year?, trimLeft_padded]
    rw [hp, List.cons_append] at plain ⊢
    split
    next hm => cases List.cons_eq_cons.1 hm |>.1; cases hd
    next hm => cases List.cons_eq_cons.1 hm |>.1; cases hd
    next => simp [plain, habs]
  next h =>
    simp only [Bool.and_eq_true, decide_eq_true_eq] at h
    split
    next hneg =>
      have habs : -(y.natAbs : Int) = y := by omega
      rw [List.cons_append, year?, trimLeft_cons _ (by decide)]
      simp only [signed, Option.map_some, habs]
    next hpos =>
      have habs : (y.natAbs : Int) = y := by omega
      rw [List.cons_append, year?, trimLeft_cons _ (by decide)]
      simp only [signed, Option.map_some, habs]

/-! ### Fractions -/

theorem fraction?_padded {places n : Nat} {c : Char} (r : List Char) (hp : 0 < places)
    (hm : places ≤ 9) (h : n < Nat.pow 10 places) (hc : isDigit c = false) :
    fraction? ('.' :: padded places n ++ c :: r) =
      some (n * Nat.pow 10 (9 - places), c :: r) := by
  have hlen := Decimal.padded_length hp h
  have front : ((padded places n ++ c :: r).take 9).takeWhile isDigit = padded places n :=
    takeWhile_take_append (fun c => Decimal.isDigit_of_mem_padded) (by omega)
      (.inr (by simpa using hc))
  have back : (padded places n ++ c :: r).dropWhile isDigit = c :: r := by
    rw [List.dropWhile_append_of_pos fun c => Decimal.isDigit_of_mem_padded]
    simp [hc]
  have hne : padded places n ≠ [] := by
    intro hnil
    rw [hnil] at hlen
    simp at hlen
    omega
  rw [List.cons_append, fraction?]
  simp only [front, back, List.isEmpty_iff, hne, if_false, Decimal.value_padded, hlen]

theorem fraction?_fractionText {nanos : Nat} {c : Char} (r : List Char)
    (h : nanos < Span.perSecond) (hc : isDigit c = false) (hp : c ≠ '.') :
    fraction? (fractionText nanos ++ c :: r) = some (nanos, c :: r) := by
  have second : Span.perSecond = 1000000000 := rfl
  have three : Nat.pow 10 3 = 1000 := rfl
  have six : Nat.pow 10 6 = 1000000 := rfl
  have nine : Nat.pow 10 9 = 1000000000 := rfl
  simp only [fractionText]
  split
  next hzero =>
    subst hzero
    rw [List.nil_append, fraction?]
    intro r' hr'
    exact hp (List.cons_eq_cons.1 hr').1
  next =>
    split
    next hmilli =>
      rw [fraction?_padded r (by decide) (by decide) (by omega) hc]
      simp only [Option.some.injEq, Prod.mk.injEq, and_true, six]
      omega
    next =>
      split
      next hmicro =>
        rw [fraction?_padded r (by decide) (by decide) (by omega) hc]
        simp only [Option.some.injEq, Prod.mk.injEq, and_true, three]
        omega
      next =>
        rw [fraction?_padded r (by decide) (by decide) (by omega) hc]
        simp

/-! ### Instants -/

theorem char?_trimLeft {c : Char} (r : List Char) (h : isBlank c = false) :
    char? c (trimLeft (c :: r)) = some r := by
  rw [trimLeft_cons r h]
  simp [char?]

def fieldsOf (t : Instant) : Fields :=
  ⟨t.date, t.secondOfDay / 3600, t.secondOfDay / 60 % 60,
    t.secondOfDay % 60 + if t.isLeap then 1 else 0,
    if t.isLeap then t.nanos - Span.perSecond else t.nanos⟩

theorem secondOfDay_lt (t : Instant) : t.secondOfDay < 86400 := by
  have day : (perDay : Int) = 86400 := rfl
  simp only [secondOfDay, day]
  omega

theorem part_lt (t : Instant) :
    (if t.isLeap then t.nanos - Span.perSecond else t.nanos) < Span.perSecond := by
  have h := t.isTime.2.2.1
  simp only [isLeap, decide_eq_true_eq]
  split <;> omega

theorem fields?_chars (t : Instant) :
    fields? trimLeft (oneOf? ['T', 't', ' ']) t.chars = some (t.fieldsOf, ['Z']) := by
  have day : t.date.month < 100 ∧ t.date.day < 100 := Date.ofNumber_bounds (t.seconds / perDay)
  have time := secondOfDay_lt t
  have second : t.secondOfDay % 60 + (if t.isLeap then 1 else 0) < 100 := by
    split <;> omega
  have dash := fun r => char?_trimLeft (c := '-') r (by decide)
  have colon := fun r => char?_trimLeft (c := ':') r (by decide)
  have middle : ∀ r, oneOf? ['T', 't', ' '] ('T' :: r) = some r := fun r => rfl
  simp only [chars, List.append_assoc, List.cons_append, fields?,
    year?_yearText t.date.year _ (c := '-') (by decide), Option.bind_eq_bind, Option.bind_some,
    dash, colon, middle, short?_padded _ day.1, short?_padded _ day.2,
    short?_padded (n := t.secondOfDay / 3600) _ (by omega),
    short?_padded (n := t.secondOfDay / 60 % 60) _ (by omega), short?_padded _ second,
    fraction?_fractionText (c := 'Z') _ (part_lt t) (by decide) (by decide)]
  rfl

theorem seconds_eq (t : Instant) :
    t.date.number * perDay + (t.secondOfDay / 3600 : Nat) * 3600 +
      (t.secondOfDay / 60 % 60 : Nat) * 60 + (t.secondOfDay % 60 : Nat) = t.seconds := by
  have day : (perDay : Int) = 86400 := rfl
  rw [Instant.date, Date.number_ofNumber, secondOfDay, day]
  omega

theorem year_bounds (t : Instant) : firstYear ≤ t.date.year ∧ t.date.year ≤ lastYear := by
  have day : (perDay : Int) = 86400 := rfl
  have first : firstSecond = Date.number ⟨firstYear, 1, 1⟩ * perDay := rfl
  have last : lastSecond = (Date.number ⟨lastYear, 12, 31⟩ + 1) * perDay - 1 := rfl
  obtain ⟨low, high, -⟩ := t.isTime
  rw [first, day] at low
  rw [last, day] at high
  rw [Instant.date, day]
  constructor
  · refine Date.firstYear_le_year ?_
    omega
  · refine Date.year_le_lastYear ?_
    omega

/-- The last second of a minute is its fifty-ninth, so a leap second is written as the sixtieth. -/
theorem second_of_isLeap {t : Instant} (h : t.isLeap = true) : t.secondOfDay % 60 = 59 := by
  have day : (perDay : Int) = 86400 := rfl
  have hs := t.isTime.2.2.2 (by simpa [isLeap] using h)
  simp only [secondOfDay, day]
  omega

theorem at?_fieldsOf (t : Instant) : t.fieldsOf.at? 0 = some t := by
  have valid : t.date.isValid = true := Date.isValid_ofNumber _
  have years := year_bounds t
  have time := secondOfDay_lt t
  have whole := seconds_eq t
  have hour : t.secondOfDay / 3600 < 24 := by omega
  have minute : t.secondOfDay / 60 % 60 < 60 := by omega
  simp only [Fields.at?, fieldsOf, valid, years, hour, minute, decide_true, Bool.and_true,
    Bool.true_and]
  by_cases hl : t.isLeap = true
  · have hs := second_of_isLeap hl
    have hn : t.nanos - Span.perSecond + Span.perSecond = t.nanos := by
      have : Span.perSecond ≤ t.nanos := by simpa [isLeap] using hl
      omega
    rw [hs] at whole
    simp only [hl, hs, if_true, Nat.reduceAdd, Nat.le_refl, decide_true, hn]
    rw [Int.zero_mul, Int.sub_zero, whole]
    simp only [of?, dif_pos t.isTime]
  · have hs : t.secondOfDay % 60 < 60 := Nat.mod_lt _ (by decide)
    have hne : t.secondOfDay % 60 ≠ 60 := by omega
    simp only [hl, Bool.false_eq_true, if_false, Nat.add_zero, hne, Nat.le_of_lt hs, decide_true,
      if_true]
    rw [Int.zero_mul, Int.sub_zero, whole]
    simp only [of?, dif_pos t.isTime]

theorem relaxed?_chars (t : Instant) : relaxed? t.chars = some t := by
  simp only [relaxed?, fields?_chars, Option.bind_eq_bind, Option.bind_some]
  exact at?_fieldsOf t

end Instant
end Casebook
