import BulkTransfer.Proofs.Time.Calendar
import BulkTransfer.Time.Timestamp
import Mathlib.Algebra.Order.Group.Nat
/-!
# Timestamps in the default layout

A timestamp that is written without a format of its own is read back, but for what is less than a
microsecond. Its text shows what a clock in UTC shows. RFC 3339 does not take it, and of the other layouts
only the one that it was written in.

A number is written with the digits that its place in a time has, and the digits are read as the number.
Years beyond four digits, and those before year zero, are written with their sign.
-/
namespace BulkTransfer

/-- Digits that say a number, perhaps with zeros before it. -/
structure IsNumeral (text : List Char) (n : Nat) : Prop where
  digits : ∀ c ∈ text, c.isDigit = true
  value : Nat.ofDigitChars 10 text 0 = n

namespace IsNumeral

variable {text rest : List Char} {n width : Nat}

theorem toDigits (n : Nat) : IsNumeral (Nat.toDigits 10 n) n where
  digits := fun _ hc => Nat.isDigit_of_mem_toDigits (by decide) (by decide) hc
  value := Nat.ofDigitChars_ten_toDigits

theorem padded (h : IsNumeral text n) (zeros : Nat) : IsNumeral (List.replicate zeros '0' ++ text) n where
  digits := by
    intro c hc
    rcases List.mem_append.mp hc with zero | digit
    · rw [List.eq_of_mem_replicate zero]
      rfl
    · exact h.digits c digit
  value := by
    rw [Nat.ofDigitChars_append, Nat.ofDigitChars_replicate_zero, Nat.mul_zero, h.value]

theorem fill_chars (n width : Nat) : (Pattern.fill '0' width (toString n)).toList =
    List.replicate (width - (Nat.toDigits 10 n).length) '0' ++ Nat.toDigits 10 n := by
  simp [Pattern.fill, ← String.length_toList]

theorem fill (n width : Nat) : IsNumeral (Pattern.fill '0' width (toString n)).toList n := by
  rw [fill_chars]
  exact (toDigits n).padded _

theorem fill_length (n width : Nat) :
    (Pattern.fill '0' width (toString n)).toList.length = max width (Nat.toDigits 10 n).length := by
  rw [fill_chars, List.length_append, List.length_replicate]
  omega

/-- A number with no more digits than its width is filled up with zeros. -/
theorem fill_exact {n width : Nat} (room : 0 < width) (small : n < 10 ^ width) :
    (Pattern.fill '0' width (toString n)).toList.length = width := by
  have fits : (Nat.toDigits 10 n).length ≤ width := (Nat.length_toDigits_le_iff (by decide) room).mpr small
  rw [fill_length, Nat.max_eq_left fits]

theorem two {v : Nat} (small : v < 100) :
    IsNumeral (Pattern.two v .zero).toList v ∧ (Pattern.two v .zero).toList.length = 2 := by
  have tens : v / 10 < 10 := by omega
  have units : v % 10 < 10 := Nat.mod_lt _ (by decide)
  have char : ∀ d < 10, (String.singleton (Char.ofNat (48 + d))).toList = Nat.toDigits 10 d := by decide
  have chars : (Pattern.two v .zero).toList = Nat.toDigits 10 (v / 10) ++ Nat.toDigits 10 (v % 10) := by
    have byte : ((v : Int) % 256).toNat = v := by omega
    rw [Pattern.two, byte]
    · rw [String.toList_append, char _ tens]
      simp
    · nofun
    · nofun
  have value : ∀ t < 10, ∀ u < 10,
      Nat.ofDigitChars 10 (Nat.toDigits 10 t ++ Nat.toDigits 10 u) 0 = 10 * t + u := by decide
  rw [chars]
  refine ⟨⟨fun c hc => ?_, ?_⟩, ?_⟩
  · rcases List.mem_append.mp hc with hc | hc
    · exact (toDigits _).digits c hc
    · exact (toDigits _).digits c hc
  · rw [value _ tens _ units]
    omega
  · rw [Nat.toDigits_of_lt_base tens, Nat.toDigits_of_lt_base units]
    rfl

/-- A year has four digits, or a sign and digits. -/
theorem year (year : Int) : ∃ digits, IsNumeral digits year.natAbs ∧ 0 < digits.length ∧
    (0 ≤ year ∧ digits.length = 4 ∧ (Pattern.yearText year .zero).toList = digits ∨
      year < 0 ∧ (Pattern.yearText year .zero).toList = '-' :: digits ∨
        9999 < year ∧ (Pattern.yearText year .zero).toList = '+' :: digits) := by
  have filled : ∀ width, 0 < (Pattern.fill '0' width (toString year.natAbs)).toList.length := by
    intro width
    rw [fill_length]
    have := Nat.length_toDigits_pos (b := 10) (n := year.natAbs)
    omega
  by_cases common : 1000 ≤ year ∧ year ≤ 9999
  · obtain ⟨n, rfl⟩ := Int.eq_ofNat_of_zero_le (show 0 ≤ year by omega)
    have chars : (Pattern.yearText n .zero).toList = Nat.toDigits 10 n := by
      rw [Pattern.yearText, if_pos common]
      exact Nat.toList_repr
    have most := (Nat.length_toDigits_le_iff (b := 10) (n := n) (k := 4) (by decide) (by decide)).mpr (by omega)
    have least := (Nat.length_toDigits_le_iff (b := 10) (n := n) (k := 3) (by decide) (by decide)).not.mpr
      (by omega)
    exact ⟨_, toDigits n, Nat.length_toDigits_pos, .inl ⟨by omega, by omega, chars⟩⟩
  · have wide : Pattern.yearText year .zero =
        Pattern.wide 4 year .zero (year < 0 || year ≥ 10000) := by rw [Pattern.yearText, if_neg common]
    by_cases before : year < 0
    · refine ⟨_, fill _ 4, filled 4, .inr (.inl ⟨before, ?_⟩)⟩
      rw [wide, Pattern.wide]
      simp [before, show 5 - "-".length = 4 from rfl]
    by_cases late : 9999 < year
    · refine ⟨_, fill _ 4, filled 4, .inr (.inr ⟨late, ?_⟩)⟩
      rw [wide, Pattern.wide]
      simp [before, show 10000 ≤ year by omega, show 5 - "+".length = 4 from rfl]
    · refine ⟨_, fill _ 4, filled 4, .inl ⟨by omega, fill_exact (by decide) (by omega), ?_⟩⟩
      rw [wide, Pattern.wide]
      simp [before, show ¬ 10000 ≤ year by omega]

end IsNumeral

namespace TimeText

variable {text rest : List Char} {n least most : Nat}

/-- All digits of a numeral are read, if no more may be read or no more follow. -/
theorem number_of_numeral (h : IsNumeral text n) (enough : least ≤ text.length) (few : text.length ≤ most)
    (stop : text.length = most ∨ ∀ c ∈ rest.head?, c.isDigit = false) (small : n < 0x8000000000000000) :
    number least most (text ++ rest) = .ok ((n : Int), rest) := by
  have digits : ((text ++ rest).take most).takeWhile Char.isDigit = text := by
    rw [List.take_append, List.take_of_length_le few, List.takeWhile_append_of_pos h.digits]
    rcases stop with full | other
    · rw [full, Nat.sub_self]
      exact List.append_nil text
    · cases rest with
      | nil => simp
      | cons c rest => cases most - text.length <;> simp [other c rfl]
  have value : text.foldl (fun acc c => acc * 10 + digit c) 0 = n := by
    rw [← h.value, Nat.ofDigitChars]
    simp only [digit, Nat.mul_comm]
  rw [number, digits, value]
  simp [Nat.not_lt.mpr enough, Nat.not_le.mpr small]

theorem digit_not_blank {c : Char} (digit : c.isDigit = true) : isBlank c = false := by
  have range : 48 ≤ c.toNat ∧ c.toNat ≤ 57 := by
    simpa [Char.isDigit, UInt32.le_iff_toNat_le] using digit
  simp only [isBlank, Bool.or_eq_false_iff, Bool.and_eq_false_iff, decide_eq_false_iff_not, beq_eq_false_iff_ne]
  omega

theorem trimStart_of_numeral (h : IsNumeral text n) (filled : 0 < text.length) (rest : List Char) :
    trimStart (text ++ rest) = text ++ rest := by
  cases text with
  | nil => cases filled
  | cons c text =>
    have digit := h.digits c List.mem_cons_self
    simp [trimStart, digit_not_blank digit]

/-- A part without a sign that is written in its full width is read, whatever follows. -/
theorem numberItem_of_numeral {part : NumberPart} {f f' : TimeFields} (unsigned : isSigned part = false)
    (counted : part ≠ .timestamp) (h : IsNumeral text n) (filled : 0 < text.length)
    (full : text.length = digitsOf part) (small : n < 0x8000000000000000) (set : f.set part n = .ok f')
    (rest : List Char) : numberItem part f (text ++ rest) = .ok (f', rest) := by
  have read : number 1 (digitsOf part) (text ++ rest) = .ok ((n : Int), rest) :=
    number_of_numeral h filled full.le (.inl full) small
  rw [numberItem, trimStart_of_numeral h filled]
  simp only [if_neg counted, unsigned, read, bind, Except.bind, set]
  rfl

/-- A year is read with its sign, and before something that is no digit. -/
theorem numberItem_year {f f' : TimeFields} {year : Int} (small : year.natAbs < 0x8000000000000000)
    (set : f.set .year year = .ok f') (stop : ∀ c ∈ rest.head?, c.isDigit = false) :
    numberItem .year f ((Pattern.yearText year .zero).toList ++ rest) = .ok (f', rest) := by
  obtain ⟨digits, numeral, filled, forms⟩ := IsNumeral.year year
  have read : ∀ most, digits.length ≤ most →
      number 1 most (digits ++ rest) = .ok ((year.natAbs : Int), rest) := fun most few =>
    number_of_numeral numeral filled few (.inr stop) small
  rcases forms with ⟨after, length, chars⟩ | ⟨before, chars⟩ | ⟨late, chars⟩
  · have value : (year.natAbs : Int) = year := by omega
    rw [value] at read
    have four := read 4 length.le
    rw [numberItem, chars, trimStart_of_numeral numeral filled]
    cases digits with
    | nil => cases filled
    | cons c digits =>
      have digit := numeral.digits c List.mem_cons_self
      rw [List.cons_append] at four ⊢
      dsimp only
      split
      case h_1 sign =>
        obtain ⟨rfl, -⟩ := List.cons.inj sign
        cases digit
      case h_2 sign =>
        obtain ⟨rfl, -⟩ := List.cons.inj sign
        cases digit
      case h_3 =>
        rw [if_neg (by decide), digitsOf, four]
        simp only [bind, Except.bind, set]
        rfl
  · have value : -(year.natAbs : Int) = year := by omega
    have all := read (digits ++ rest).length (by simp)
    rw [numberItem, chars]
    simp only [isSigned, trimStart, List.cons_append, List.dropWhile_cons, show isBlank '-' = false by decide,
      Bool.false_eq_true, if_false, all, bind, Except.bind, pure, Except.pure, value, set]
  · have value : (year.natAbs : Int) = year := by omega
    have all := read (digits ++ rest).length (by simp)
    rw [numberItem, chars]
    simp only [isSigned, trimStart, List.cons_append, List.dropWhile_cons, show isBlank '+' = false by decide,
      Bool.false_eq_true, if_false, all, bind, Except.bind, pure, Except.pure, value, set]

end TimeText

open Pattern (num0)

namespace Instant

/-- The instant without what is less than a microsecond. -/
def toMicros (i : Instant) : Instant := ⟨i.seconds, i.nanos / 1000 * 1000⟩

/-- Whole microseconds since 1970; the ones of a leap second count on from those of the second before it. -/
def micros (i : Instant) : Int := i.seconds * 1000000 + (i.nanos / 1000 : Nat)

end Instant

/-- A time down to microseconds as a clock in UTC shows it; a leap second is shown as second 60. -/
structure ClockTime where
  year : Int
  month : Nat
  day : Nat
  hour : Nat
  minute : Nat
  second : Nat
  micros : Nat

namespace ClockTime

structure Valid (t : ClockTime) : Prop where
  year : Date.inRange t.year = true
  month : 1 ≤ t.month ∧ t.month ≤ 12
  day : 1 ≤ t.day ∧ t.day ≤ daysInMonth t.year t.month
  hour : t.hour < 24
  minute : t.minute < 60
  second : t.second ≤ 60
  micros : t.micros < 1000000

def two (v : Nat) : List Char := (Pattern.two v .zero).toList

def dateText (t : ClockTime) : List Char :=
  (Pattern.yearText t.year .zero).toList ++ '-' :: (two t.month ++ '-' :: two t.day)

def timeText (t : ClockTime) : List Char := two t.hour ++ ':' :: (two t.minute ++ ':' :: two t.second)

def fractionText (t : ClockTime) : List Char := (Pattern.fill '0' 6 (toString t.micros)).toList

def text (t : ClockTime) : List Char :=
  t.dateText ++ ' ' :: (t.timeText ++ '.' :: (t.fractionText ++ " +0000".toList))

def dateFields (t : ClockTime) : TimeFields := { year := some t.year, month := some t.month, day := some t.day }

def clockFields (t : ClockTime) : TimeFields :=
  { t.dateFields with
    halfDay := some ((t.hour : Int) / 12), hourOfHalf := some ((t.hour : Int) % 12)
    minute := some t.minute, second := some t.second }

def fractionFields (t : ClockTime) : TimeFields :=
  { t.clockFields with nanosecond := some (t.micros * 1000) }

def fields (t : ClockTime) : TimeFields := { t.fractionFields with offset := some 0 }

def datePattern : Pattern := [num0 .year, .literal "-", num0 .month, .literal "-", num0 .day]

variable {t : ClockTime} {f f' : TimeFields} {p : Pattern} {rest s s' : List Char}

section Items

open TimeText

theorem items_cons {i : PatternItem} (read : item i f s = .ok (f', s')) : items (i :: p) f s = items p f' s' := by
  rw [items, read]
  rfl

theorem item_literal (text : String) (f : TimeFields) (rest : List Char) :
    item (.literal text) f (text.toList ++ rest) = .ok (f, rest) := by
  simp [item, literalItem, Except.map]

/-- A two-digit part is read, whatever follows. -/
theorem item_two {part : NumberPart} {v : Nat} (unsigned : isSigned part = false) (counted : part ≠ .timestamp)
    (full : digitsOf part = 2) (small : v < 100) (set : f.set part v = .ok f') (rest : List Char) :
    item (num0 part) f (two v ++ rest) = .ok (f', rest) := by
  obtain ⟨numeral, length⟩ := IsNumeral.two small
  refine numberItem_of_numeral unsigned counted numeral ?_ ?_ (by omega) set rest
  · rw [length]
    decide
  · rw [length, full]

theorem within_ok {low high value : Int} (inside : low ≤ value ∧ value ≤ high) :
    TimeFields.within low high value = .ok value := if_pos inside

theorem Valid.small_year (h : t.Valid) : -262143 ≤ t.year ∧ t.year ≤ 262142 := by
  have year := h.year
  rw [Date.inRange, Bool.and_eq_true, decide_eq_true_eq, decide_eq_true_eq] at year
  exact year

theorem items_date (h : t.Valid) (p : Pattern) (rest : List Char) :
    items (datePattern ++ p) {} (t.dateText ++ rest) = items p t.dateFields rest := by
  have small := h.small_year
  have month := h.month
  have day := h.day
  have days : daysInMonth t.year t.month ≤ 31 := by
    unfold daysInMonth
    split_ifs <;> omega
  have year : TimeFields.set {} .year t.year = .ok { year := some t.year } := by
    rw [TimeFields.set, TimeFields.year32, within_ok (by omega)]
    rfl
  have setMonth : TimeFields.set { year := some t.year } .month t.month =
      .ok { year := some t.year, month := some t.month } := by
    rw [TimeFields.set, within_ok (by omega)]
    rfl
  have setDay : TimeFields.set { year := some t.year, month := some t.month } .day t.day = .ok t.dateFields := by
    rw [TimeFields.set, within_ok (by omega)]
    rfl
  have chars : t.dateText ++ rest = (Pattern.yearText t.year .zero).toList ++
      ("-".toList ++ (two t.month ++ ("-".toList ++ (two t.day ++ rest)))) := by
    simp [dateText]
  rw [chars]
  calc items (datePattern ++ p) {} _
    _ = items (.literal "-" :: num0 .month :: .literal "-" :: num0 .day :: p) { year := some t.year } _ :=
      items_cons (numberItem_year (by omega) year (by simp))
    _ = items (num0 .month :: .literal "-" :: num0 .day :: p) _ _ := items_cons (item_literal ..)
    _ = items (.literal "-" :: num0 .day :: p) { year := some t.year, month := some t.month } _ :=
      items_cons (item_two rfl (by decide) rfl (by omega) setMonth _)
    _ = items (num0 .day :: p) _ _ := items_cons (item_literal ..)
    _ = items p t.dateFields rest := items_cons (item_two rfl (by decide) rfl (by omega) setDay _)

/-- One blank before digits. -/
theorem item_blank {n : Nat} {digits : List Char} (numeral : IsNumeral digits n) (filled : 0 < digits.length)
    (f : TimeFields) (rest : List Char) :
    item (.blank " ") f (' ' :: (digits ++ rest)) = .ok (f, digits ++ rest) := by
  have blank : trimStart (' ' :: (digits ++ rest)) = trimStart (digits ++ rest) := rfl
  rw [item, blank, trimStart_of_numeral numeral filled]

theorem items_time (h : t.Valid) (p : Pattern) (rest : List Char) :
    items (.blank " " :: (Pattern.clock ++ p)) t.dateFields (' ' :: (t.timeText ++ rest)) =
      items p t.clockFields rest := by
  have hour := h.hour
  have minute := h.minute
  have second := h.second
  let f : TimeFields :=
    { t.dateFields with halfDay := some ((t.hour : Int) / 12), hourOfHalf := some ((t.hour : Int) % 12) }
  have setHour : t.dateFields.set .hour t.hour = .ok f := by
    rw [TimeFields.set, within_ok (by omega)]
    rfl
  have setMinute : f.set .minute t.minute = .ok { f with minute := some t.minute } := by
    rw [TimeFields.set, within_ok (by omega)]
    rfl
  have setSecond : TimeFields.set { f with minute := some t.minute } .second t.second = .ok t.clockFields := by
    rw [TimeFields.set, within_ok (by omega)]
    rfl
  obtain ⟨numeral, length⟩ := IsNumeral.two (show t.hour < 100 by omega)
  have chars : t.timeText ++ rest = two t.hour ++
      (":".toList ++ (two t.minute ++ (":".toList ++ (two t.second ++ rest)))) := by
    simp [timeText]
  rw [chars]
  calc items (.blank " " :: (Pattern.clock ++ p)) t.dateFields _
    _ = items (Pattern.clock ++ p) t.dateFields _ := items_cons (item_blank numeral (by omega) _ _)
    _ = items (.literal ":" :: num0 .minute :: .literal ":" :: num0 .second :: p) f _ :=
      items_cons (item_two rfl (by decide) rfl (by omega) setHour _)
    _ = items (num0 .minute :: .literal ":" :: num0 .second :: p) f _ := items_cons (item_literal ..)
    _ = items (.literal ":" :: num0 .second :: p) { f with minute := some t.minute } _ :=
      items_cons (item_two rfl (by decide) rfl (by omega) setMinute _)
    _ = items (num0 .second :: p) _ _ := items_cons (item_literal ..)
    _ = items p t.clockFields rest := items_cons (item_two rfl (by decide) rfl (by omega) setSecond _)

/-- Six digits of a fraction are read as so many microseconds. -/
theorem fraction_micros (small : t.micros < 1000000) (stop : ∀ c ∈ rest.head?, c.isDigit = false) :
    fraction (t.fractionText ++ rest) = .ok ((t.micros : Int) * 1000, rest) := by
  have numeral := IsNumeral.fill t.micros 6
  have length : t.fractionText.length = 6 := IsNumeral.fill_exact (by decide) (by omega)
  have read : number 1 9 (t.fractionText ++ rest) = .ok ((t.micros : Int), rest) :=
    number_of_numeral numeral (by rw [length]; decide) (by rw [length]; decide) (.inr stop) (by omega)
  have gone : rest.dropWhile Char.isDigit = rest := by
    cases rest with
    | nil => rfl
    | cons c rest => simp [stop c rfl]
  have six : (t.fractionText ++ rest).length - rest.length = 6 := by
    rw [List.length_append, length]
    omega
  rw [fraction, read]
  simp only [bind, Except.bind, pure, Except.pure, gone, six]
  rfl

theorem items_fraction (h : t.Valid) (p : Pattern) (rest : List Char)
    (stop : ∀ c ∈ rest.head?, c.isDigit = false) :
    items (.named .fraction :: p) t.clockFields ('.' :: (t.fractionText ++ rest)) =
      items p t.fractionFields rest := by
  have micros := h.micros
  have set : t.clockFields.set .nanosecond ((t.micros : Int) * 1000) = .ok t.fractionFields := by
    rw [TimeFields.set, within_ok (by omega)]
    rfl
  refine items_cons ?_
  rw [item, namedItem, pointFraction, fraction_micros micros stop]
  simp only [bind, Except.bind, pure, Except.pure, set]

theorem offset_stops : ∀ c ∈ " +0000".toList.head?, c.isDigit = false := by
  intro c hc
  obtain rfl : ' ' = c := Option.some.inj hc
  rfl

/-- The offset of UTC. -/
theorem items_offset (t : ClockTime) :
    items [.blank " ", .named (.offset .plain)] t.fractionFields " +0000".toList = .ok (t.fields, []) := by
  have read : offset .colonsOrBlanks false false "+0000".toList = .ok (0, []) := by decide
  have blank : trimStart " +0000".toList = "+0000".toList := by decide
  have twice : trimStart "+0000".toList = "+0000".toList := by decide
  have set : t.fractionFields.setOffset 0 = .ok t.fields := rfl
  have first : item (.blank " ") t.fractionFields " +0000".toList = .ok (t.fractionFields, "+0000".toList) := by
    rw [item, blank]
  have second : item (.named (.offset .plain)) t.fractionFields "+0000".toList = .ok (t.fields, []) := by
    rw [item, namedItem, offsetItem, twice, read]
    simp only [bind, Except.bind, pure, Except.pure, set]
  rw [items_cons first, items_cons second, items]

theorem layouts_parsed :
    Pattern.ofString "%Y-%m-%d %H:%M:%S%.f %z" = datePattern ++
        .blank " " :: (Pattern.clock ++ .named .fraction :: [.blank " ", .named (.offset .plain)]) ∧
      Pattern.ofString "%Y-%m-%d %H:%M:%S%.f" = datePattern ++
        .blank " " :: (Pattern.clock ++ [.named .fraction]) ∧
      Pattern.ofString "%Y-%m-%d" = datePattern := by
  decide

theorem fields_default (h : t.Valid) :
    TimeText.fields (Pattern.ofString "%Y-%m-%d %H:%M:%S%.f %z") (String.ofList t.text) = .ok t.fields := by
  rw [TimeText.fields, String.toList_ofList, layouts_parsed.1, text, items_date h, items_time h,
    items_fraction h _ _ offset_stops, items_offset]
  rfl

/-- Without a place for the offset, the offset is left over. -/
theorem fields_without_offset (h : t.Valid) :
    TimeText.fields (Pattern.ofString "%Y-%m-%d %H:%M:%S%.f") (String.ofList t.text) = .error .tooLong := by
  rw [TimeText.fields, String.toList_ofList, layouts_parsed.2.1, text, items_date h, items_time h,
    items_fraction h _ _ offset_stops]
  rfl

theorem fields_date_alone (h : t.Valid) :
    TimeText.fields (Pattern.ofString "%Y-%m-%d") (String.ofList t.text) = .error .tooLong := by
  rw [TimeText.fields, String.toList_ofList, layouts_parsed.2.2, text, ← List.append_nil datePattern, items_date h]
  rfl

end Items

/-- The instant of what a clock shows. -/
def toInstant (t : ClockTime) : Instant :=
  let days := Date.toDays ⟨t.year, t.month, t.day⟩
  let second := if t.second = 60 then 59 else t.second
  ⟨days * 86400 + (t.hour * 3600 + t.minute * 60 + second : Nat),
    if t.second = 60 then t.micros * 1000 + 1000000000 else t.micros * 1000⟩

theorem Valid.date (h : t.Valid) :
    Date.ofYearMonthDay? t.year t.month t.day = some ⟨t.year, t.month, t.day⟩ := by
  rw [Date.ofYearMonthDay?, if_pos]
  simp [h.year, h.month, h.day]

/-- A date from its year, month and day has nothing else to agree with. -/
theorem toDate_fields (h : t.Valid) : t.fields.toDate = .ok ⟨t.year, t.month, t.day⟩ := by
  have week : t.fields.agreesIsoWeek ⟨t.year, t.month, t.day⟩ = true := by
    simp [TimeFields.agreesIsoWeek, TimeFields.known, TimeFields.knownOfYear, fields, fractionFields, clockFields,
      dateFields]
  have ordinal : t.fields.agreesOrdinal ⟨t.year, t.month, t.day⟩ = true := by
    simp [TimeFields.agreesOrdinal, TimeFields.known, fields, fractionFields, clockFields, dateFields]
  have date : TimeFields.orFault .outOfRange (Date.ofYearMonthDay? t.year (t.month : Int).toNat (t.day : Int).toNat) =
      .ok ⟨t.year, t.month, t.day⟩ := by
    rw [Int.toNat_natCast, Int.toNat_natCast, h.date]
    rfl
  have year : TimeFields.resolveYear t.fields.year t.fields.century t.fields.yearOfCentury =
      .ok (some t.year) := rfl
  have isoYear : TimeFields.resolveYear t.fields.isoYear none t.fields.isoYearOfCentury = .ok none := rfl
  have month : t.fields.month = some (t.month : Int) := rfl
  have day : t.fields.day = some (t.day : Int) := rfl
  have quarter : ∀ value, TimeFields.known t.fields.quarter value = true := fun value => by
    simp [TimeFields.known, fields, fractionFields, clockFields, dateFields]
  rw [TimeFields.toDate, year, isoYear]
  simp only [bind, Except.bind, month, day, date, week, ordinal, pure, Except.pure, quarter, Bool.and_self, if_true]

theorem toTime_fields (t : ClockTime) : t.fields.toTime = .ok
    ⟨t.hour, t.minute, if t.second = 60 then 59 else t.second,
      if t.second = 60 then t.micros * 1000 + 1000000000 else t.micros * 1000⟩ := by
  have hour : (((t.hour : Int) / 12) * 12 + (t.hour : Int) % 12).toNat = t.hour := by omega
  have nanos : ((t.micros : Int) * 1000).toNat = t.micros * 1000 := by omega
  change Except.ok _ = _
  simp only [fields, fractionFields, clockFields, hour, nanos, Option.getD_some, Int.toNat_natCast]
  rfl

theorem toLocal_fields (h : t.Valid) : t.fields.toLocal 0 = .ok ⟨⟨t.year, t.month, t.day⟩,
    ⟨t.hour, t.minute, if t.second = 60 then 59 else t.second,
      if t.second = 60 then t.micros * 1000 + 1000000000 else t.micros * 1000⟩⟩ := by
  have none : t.fields.timestamp = none := rfl
  rw [TimeFields.toLocal, toDate_fields h, toTime_fields]
  simp only [none]

/-- The fields fix an instant, if its day is in the calendar. -/
theorem toInstant_fields (h : t.Valid) (known : (Date.ofDays? (Date.toDays ⟨t.year, t.month, t.day⟩)).isSome) :
    t.fields.toInstant = .ok t.toInstant := by
  have hour := h.hour
  have minute := h.minute
  have second := h.second
  have utc : t.fields.offset = some 0 := rfl
  have day : Int.fdiv (t.toInstant.seconds - 0) 86400 = Date.toDays ⟨t.year, t.month, t.day⟩ := by
    rw [Int.fdiv_eq_ediv_of_nonneg _ (by decide), toInstant]
    dsimp only
    split_ifs <;> omega
  have found : Instant.ofOffset? ⟨⟨t.year, t.month, t.day⟩,
      ⟨t.hour, t.minute, if t.second = 60 then 59 else t.second,
        if t.second = 60 then t.micros * 1000 + 1000000000 else t.micros * 1000⟩⟩ 0 = some t.toInstant := by
    change (if (Date.ofDays? (Int.fdiv (t.toInstant.seconds - 0) 86400)).isSome = true then _ else _) = _
    rw [day, if_pos known, Int.sub_zero]
    rfl
  rw [TimeFields.toInstant, utc]
  simp only [bind, Except.bind, pure, Except.pure, toLocal_fields h]
  rw [if_neg (by decide), found]
  rfl

section Refused

open TimeText

variable {α : Type}

/-- Whether or not a number fits its part, what is behind it comes next. -/
theorem refused_number {part : NumberPart} {digits : List Char} {width n : Nat}
    {k : TimeFields × List Char → Scan α} (numeral : IsNumeral digits n) (full : digits.length = width)
    (small : n < 0x8000000000000000) (after : ∀ f, ∃ e, k (f, rest) = .error e) (f : TimeFields) :
    ∃ e, (fixedNumber part width f (digits ++ rest) >>= k) = .error e := by
  rw [fixedNumber, number_of_numeral numeral full.ge full.le (.inl full) small]
  simp only [bind, Except.bind]
  cases f.set part n with
  | error e => exact ⟨e, rfl⟩
  | ok f' => exact after f'

theorem refused_two {part : NumberPart} {v : Nat} {k : TimeFields × List Char → Scan α} (small : v < 100)
    (after : ∀ f, ∃ e, k (f, rest) = .error e) (f : TimeFields) :
    ∃ e, (fixedNumber part 2 f (two v ++ rest) >>= k) = .error e := by
  obtain ⟨numeral, length⟩ := IsNumeral.two small
  exact refused_number numeral length (by omega) after f

/-- RFC 3339 has four digits for the year, and wants the offset right behind the seconds. -/
theorem strict_refuses (h : t.Valid) : ∃ fault, strictRfc3339 t.text = .error fault := by
  have small := h.small_year
  have month := h.month
  have day := h.day
  have days : daysInMonth t.year t.month ≤ 31 := by
    unfold daysInMonth
    split_ifs <;> omega
  have hour := h.hour
  have minute := h.minute
  have second := h.second
  obtain ⟨digits, numeral, -, forms⟩ := IsNumeral.year t.year
  obtain ⟨rest, chars, later⟩ : ∃ rest, t.text = (Pattern.yearText t.year .zero).toList ++ rest ∧
      rest = '-' :: (two t.month ++ '-' :: (two t.day ++ ' ' :: (two t.hour ++ ':' :: (two t.minute ++ ':' ::
        (two t.second ++ '.' :: (t.fractionText ++ " +0000".toList)))))) :=
    ⟨_, by simp [text, dateText, timeText], rfl⟩
  rw [chars, strictRfc3339]
  rcases forms with ⟨-, length, year⟩ | ⟨-, year⟩ | ⟨-, year⟩
  · rw [year, later]
    refine refused_number numeral length (by omega) (fun f => ?_) {}
    refine refused_two (by omega) (fun f => ?_) f
    refine refused_two (by omega) (fun f => ?_) f
    refine refused_two (by omega) (fun f => ?_) f
    refine refused_two (by omega) (fun f => ?_) f
    refine refused_two (by omega) (fun f => ?_) f
    simp only [fraction_micros h.micros offset_stops, bind, Except.bind, pure, Except.pure]
    cases f.set .nanosecond ((t.micros : Int) * 1000) with
    | error e => exact ⟨e, rfl⟩
    | ok f => exact ⟨_, rfl⟩
  · rw [year]
    exact ⟨_, rfl⟩
  · rw [year]
    exact ⟨_, rfl⟩

end Refused

theorem readWith_default (h : t.Valid) (known : (Date.ofDays? (Date.toDays ⟨t.year, t.month, t.day⟩)).isSome) :
    Timestamp.readWith? (String.ofList t.text) "%Y-%m-%d %H:%M:%S%.f %z" = some t.toInstant := by
  rw [Timestamp.readWith?, fields_default h]
  dsimp only
  rw [toInstant_fields h known]

/-- Each layout reads the instant, or does not read the text. -/
theorem readWith_known (h : t.Valid) (known : (Date.ofDays? (Date.toDays ⟨t.year, t.month, t.day⟩)).isSome) :
    ∀ format ∈ Timestamp.knownFormats, ∀ i, Timestamp.readWith? (String.ofList t.text) format = some i →
      i = t.toInstant := by
  intro format member i read
  simp only [Timestamp.knownFormats, List.mem_cons, List.not_mem_nil, or_false] at member
  rcases member with rfl | rfl | rfl
  · rw [readWith_default h known] at read
    exact (Option.some.inj read).symm
  · rw [Timestamp.readWith?, fields_without_offset h] at read
    cases read
  · rw [Timestamp.readWith?, fields_date_alone h] at read
    cases read

theorem read_text (h : t.Valid) (known : (Date.ofDays? (Date.toDays ⟨t.year, t.month, t.day⟩)).isSome) :
    Timestamp.read (String.ofList t.text) none = .ok t.toInstant := by
  obtain ⟨fault, refused⟩ := strict_refuses h
  rw [Timestamp.read, String.toList_ofList, refused]
  dsimp only
  rw [Timestamp.knownFormats, List.findSome?_cons, readWith_default h known]

/-- What a clock in UTC shows at an instant. -/
def ofInstant (i : Instant) : ClockTime :=
  let l := i.toLocal
  ⟨l.date.year, l.date.month, l.date.day, l.time.hour, l.time.minute, l.time.shownSecond, l.time.shownNanos / 1000⟩

section Shown

variable {i : Instant}

theorem ofInstant_toDays (i : Instant) :
    Date.toDays ⟨(ofInstant i).year, (ofInstant i).month, (ofInstant i).day⟩ = Int.fdiv i.seconds 86400 :=
  Date.toDays_ofDays _

theorem ofInstant_second (i : Instant) :
    (ofInstant i).second = i.secondOfDay % 60 + i.nanos / 1000000000 := rfl

theorem secondOfDay_lt (i : Instant) : i.secondOfDay < 86400 := by
  unfold Instant.secondOfDay
  omega

theorem ofInstant_valid (day : (Date.ofDays? (Int.fdiv i.seconds 86400)).isSome) (nanos : i.nanos < 2000000000) :
    (ofInstant i).Valid := by
  have date := Date.ofDays_valid (Int.fdiv i.seconds 86400)
  have late := secondOfDay_lt i
  refine ⟨?_, ⟨date.1, date.2.1⟩, date.2.2, ?_, ?_, ?_, ?_⟩
  · rw [Date.ofDays?] at day
    split at day
    · assumption
    · cases day
  all_goals
    simp only [ofInstant, Instant.toLocal, TimeOfDay.shownSecond, TimeOfDay.shownNanos]
    omega

theorem default_parsed : Pattern.ofString Timestamp.defaultFormat = datePattern ++
    .blank " " :: (Pattern.clock ++ .named (.fixedFraction 6) :: [.blank " ", .named (.offset .plain)]) := by
  decide

/-- The default layout writes what a clock shows. -/
theorem write_default (i : Instant) : Timestamp.write i none = .ok (String.ofList (ofInstant i).text) := by
  have written : (Pattern.ofString Timestamp.defaultFormat).write? i = some (String.join
      [Pattern.yearText i.toLocal.date.year .zero, "-", Pattern.two i.toLocal.date.month .zero, "-",
        Pattern.two i.toLocal.date.day .zero, " ", Pattern.two i.toLocal.time.hour .zero, ":",
        Pattern.two i.toLocal.time.minute .zero, ":", Pattern.two i.toLocal.time.shownSecond .zero,
        "." ++ Pattern.fractionOf i.toLocal.time.shownNanos 6, " ", "+0000"]) := by
    rw [default_parsed]
    rfl
  rw [Timestamp.write, Option.getD_none, written]
  refine congrArg Except.ok (String.toList_inj.mp ?_)
  simp [String.join, text, dateText, timeText, fractionText, two, ofInstant, Pattern.fractionOf]

/-- The second of a day that is shown, and what is behind its point, are the time of day again. -/
theorem toInstant_ofInstant (i : Instant) : (ofInstant i).toInstant =
    if (ofInstant i).second = 60 then
      ⟨i.seconds - (i.secondOfDay % 60 : Nat) + 59, i.nanos % 1000000000 / 1000 * 1000 + 1000000000⟩
    else ⟨i.seconds + (i.nanos / 1000000000 : Nat), i.nanos % 1000000000 / 1000 * 1000⟩ := by
  have day : Int.fdiv i.seconds 86400 * 86400 + i.secondOfDay = i.seconds := by
    rw [Int.fdiv_eq_ediv_of_nonneg _ (by decide), Instant.secondOfDay]
    omega
  have hour : (ofInstant i).hour = i.secondOfDay / 3600 := rfl
  have minute : (ofInstant i).minute = i.secondOfDay / 60 % 60 := rfl
  have second := ofInstant_second i
  have micros : (ofInstant i).micros = i.nanos % 1000000000 / 1000 := rfl
  rw [toInstant, ofInstant_toDays, hour, minute, micros]
  split_ifs
  all_goals
    simp only [Instant.mk.injEq, and_true]
    omega

theorem micros_toInstant (i : Instant) : (ofInstant i).toInstant.micros = i.micros := by
  have second := ofInstant_second i
  rw [toInstant_ofInstant]
  split_ifs
  all_goals
    simp only [Instant.micros]
    omega

/-- Only the last second of a minute is shown as second 60. -/
theorem toInstant_storable (h : i.IsStorable) : (ofInstant i).toInstant = i.toMicros := by
  have leap : i.nanos < 2000000000 ∧ (i.nanos < 1000000000 ∨ i.secondOfDay % 60 = 59) := by
    unfold Instant.IsStorable Instant.ofParts? at h
    dsimp only at h
    split at h
    · rename_i inside
      simp only [Bool.and_eq_true, Bool.or_eq_true, decide_eq_true_eq, beq_iff_eq] at inside
      exact ⟨inside.1.2, inside.2⟩
    · cases h
  have second := ofInstant_second i
  rw [toInstant_ofInstant, Instant.toMicros]
  split_ifs
  all_goals
    simp only [Instant.mk.injEq]
    omega

end Shown

end ClockTime

/-- Every instant of the calendar is written in the default layout and read back without what is less than a
microsecond. RFC 3339 refuses its text, and a known layout that reads it reads the same instant. Leap
nanoseconds may come in any second here: those of the last second of a minute are kept as such, and others
are read as a part of the next second, which is the same time. -/
theorem default_text_reads_back (i : Instant) (day : (Date.ofDays? (Int.fdiv i.seconds 86400)).isSome)
    (nanos : i.nanos < 2000000000) :
    ∃ text j, Timestamp.write i none = .ok text ∧ Timestamp.read text none = .ok j ∧
      (i.IsStorable → j = i.toMicros) ∧ j.micros = i.micros ∧ j.nanos % 1000 = 0 ∧
        (∃ fault, TimeText.strictRfc3339 text.toList = .error fault) ∧
          ∀ format ∈ Timestamp.knownFormats, ∀ k, Timestamp.readWith? text format = some k → k = j := by
  have valid := ClockTime.ofInstant_valid day nanos
  have known : (Date.ofDays? (Date.toDays ⟨(ClockTime.ofInstant i).year, (ClockTime.ofInstant i).month,
      (ClockTime.ofInstant i).day⟩)).isSome := by
    rw [ClockTime.ofInstant_toDays]
    exact day
  refine ⟨_, (ClockTime.ofInstant i).toInstant, ClockTime.write_default i, ClockTime.read_text valid known,
    ClockTime.toInstant_storable, ClockTime.micros_toInstant i, ?_, ?_, ClockTime.readWith_known valid known⟩
  · rw [ClockTime.toInstant]
    dsimp only
    split_ifs <;> omega
  · rw [String.toList_ofList]
    exact ClockTime.strict_refuses valid

/-- The leap second at the end of the calendar's first minute. -/
theorem first_leap_second_reads_back :
    Timestamp.write ⟨-8334601228741, 1999999999⟩ none = .ok "-262143-01-01 00:00:60.999999 +0000" ∧
      Timestamp.read "-262143-01-01 00:00:60.999999 +0000" none = .ok ⟨-8334601228741, 1999999000⟩ := by
  obtain ⟨text, j, written, read, exactly, -⟩ :=
    default_text_reads_back ⟨-8334601228741, 1999999999⟩ (by decide) (by decide)
  have chars : Timestamp.write ⟨-8334601228741, 1999999999⟩ none = .ok "-262143-01-01 00:00:60.999999 +0000" := by
    decide
  obtain rfl := Except.ok.inj (written.symm.trans chars)
  rw [exactly (by unfold Instant.IsStorable; decide)] at read
  exact ⟨chars, read⟩

end BulkTransfer
