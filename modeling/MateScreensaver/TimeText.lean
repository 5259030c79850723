import Mathlib.Data.Rat.Cast.Defs
import MateScreensaver.Lib.Scan

/-!
The texts beside the scales of the preferences (mate-screensaver-preferences.c:969), as they are
without a translation: they tell which time is set.
-/

namespace MateScreensaver
open Scan

/- The units of time_to_string_text. -/
inductive TimeUnit
  | hour
  | minute
  | second
deriving DecidableEq

/- %d -/
def printInt (n : ℤ) : Text := if n < 0 then '-' :: Nat.toDigits 10 n.natAbs else Nat.toDigits 10 n.natAbs

namespace TimeUnit

def one : TimeUnit → Text
  | hour => "hour".toList
  | minute => "minute".toList
  | second => "second".toList

def many : TimeUnit → Text
  | hour => "hours".toList
  | minute => "minutes".toList
  | second => "seconds".toList

def seconds : TimeUnit → ℕ
  | hour => 3600
  | minute => 60
  | second => 1

def word (u : TimeUnit) (n : ℤ) : Text := if n = 1 then u.one else u.many

/- ngettext ("%d hour", "%d hours", n) and its like. -/
def count (u : TimeUnit) (n : ℤ) : Text := printInt n ++ ' ' :: u.word n

end TimeUnit

/- mate-screensaver-preferences.c:970 -/
def timeToStringText (time : ℤ) : Text :=
  let sec := time.tmod 60
  let time := time - sec
  let min := (time.tmod (60 * 60)).tdiv 60
  let time := time - min * 60
  let hour := (time.tdiv (60 * 60)).bmod (2 ^ 32)
  let hours := TimeUnit.hour.count hour
  let mins := TimeUnit.minute.count min
  let secs := TimeUnit.second.count sec
  if 0 < hour then
    if 0 < sec then hours ++ ' ' :: (mins ++ ' ' :: secs)
    else if 0 < min then hours ++ ' ' :: mins
    else hours
  else if 0 < min then
    if 0 < sec then mins ++ ' ' :: secs else mins
  else secs

def emSpace : Char := Char.ofNat 0x2003

/- mate-screensaver-preferences.c:1025. How much is padded is calculated in floating point. -/
def formatValueCallbackTime (lower upper padSize : ℤ) (rtl : Bool) (value : ℤ) : Text :=
  let timeStr := timeToStringText (value * 60)
  let range : ℚ := upper - lower
  let delta := range / 2 - (value - lower)
  if 0 < padSize then
    let delta := if rtl then delta * -1 else delta
    let pad := List.replicate padSize.toNat emSpace
    if delta < 0 then pad ++ timeStr else timeStr ++ pad
  else timeStr

/-! ### Reading -/

namespace TimeUnit

def ofWord (w : Text) : Option TimeUnit := [hour, minute, second].find? fun u => w = u.one ∨ w = u.many

theorem ofWord_one (u : TimeUnit) : ofWord u.one = some u := by
  cases u <;> decide +kernel

theorem ofWord_many (u : TimeUnit) : ofWord u.many = some u := by
  cases u <;> decide +kernel

theorem ofWord_word (u : TimeUnit) (n : ℤ) : ofWord (u.word n) = some u := by
  rw [word]
  split
  · exact ofWord_one u
  · exact ofWord_many u

theorem one_spaceless (u : TimeUnit) : ' ' ∉ u.one ∧ emSpace ∉ u.one := by
  cases u <;> decide +kernel

theorem many_spaceless (u : TimeUnit) : ' ' ∉ u.many ∧ emSpace ∉ u.many := by
  cases u <;> decide +kernel

theorem word_spaceless (u : TimeUnit) (n : ℤ) : ' ' ∉ u.word n ∧ emSpace ∉ u.word n := by
  rw [word]
  split
  · exact one_spaceless u
  · exact many_spaceless u

end TimeUnit

/- Numbers and units in turn. -/
def readWords : List Text → Option ℕ
  | [] => some 0
  | [_] => none
  | digits :: word :: rest => do
    let u ← TimeUnit.ofWord word
    let n ← readWords rest
    some (Nat.ofDigitChars 10 digits 0 * u.seconds + n)

def readTime (text : Text) : Option ℕ := readWords (text.splitOn ' ')

/- The words of a time that is made of so many of the units. -/
def spoken (parts : List (TimeUnit × ℕ)) : List Text :=
  parts.flatMap fun p => [Nat.toDigits 10 p.2, p.1.word p.2]

def total (parts : List (TimeUnit × ℕ)) : ℕ := (parts.map fun p => p.2 * p.1.seconds).sum

variable {parts : List (TimeUnit × ℕ)} {text : Text} {time value : ℤ}

theorem readWords_spoken (parts : List (TimeUnit × ℕ)) : readWords (spoken parts) = some (total parts) := by
  induction parts with
  | nil => rfl
  | cons p parts ih =>
    change readWords (Nat.toDigits 10 p.2 :: p.1.word p.2 :: spoken parts) = _
    rw [readWords, TimeUnit.ofWord_word, ih, Nat.ofDigitChars_ten_toDigits]
    rfl

theorem toDigits_spaceless (n : ℕ) : ' ' ∉ Nat.toDigits 10 n ∧ emSpace ∉ Nat.toDigits 10 n := by
  have hdigits : ∀ c ∈ Nat.toDigits 10 n, c.isDigit = true :=
    fun _ hc => Nat.isDigit_of_mem_toDigits (by decide) (by decide) hc
  constructor
  · intro hspace
    exact absurd (hdigits _ hspace) (by decide)
  · intro hspace
    exact absurd (hdigits _ hspace) (by decide)

theorem spoken_spaceless (parts : List (TimeUnit × ℕ)) : ∀ w ∈ spoken parts, ' ' ∉ w ∧ emSpace ∉ w := by
  induction parts with
  | nil =>
    intro w hw
    cases hw
  | cons p parts ih =>
    intro w hw
    obtain rfl | hw := List.mem_cons.1 hw
    · exact toDigits_spaceless p.2
    · obtain rfl | hw := List.mem_cons.1 hw
      · exact p.1.word_spaceless p.2
      · exact ih w hw

/- The words are taken apart where they were put together. -/
theorem readTime_spoken (h : parts ≠ []) : readTime ([' '].intercalate (spoken parts)) = some (total parts) := by
  have hne : spoken parts ≠ [] := by
    obtain ⟨p, parts, rfl⟩ := List.exists_cons_of_ne_nil h
    exact List.cons_ne_nil _ _
  rw [readTime, List.splitOn_intercalate _ (fun w hw => (spoken_spaceless parts w hw).1) hne, readWords_spoken]

/- The hours, minutes and seconds that are shown. -/
def timeParts (time : ℕ) : List (TimeUnit × ℕ) :=
  let hour := time / 3600
  let min := time % 3600 / 60
  let sec := time % 60
  if 0 < hour then
    if 0 < sec then [(.hour, hour), (.minute, min), (.second, sec)]
    else if 0 < min then [(.hour, hour), (.minute, min)]
    else [(.hour, hour)]
  else if 0 < min then
    if 0 < sec then [(.minute, min), (.second, sec)] else [(.minute, min)]
  else [(.second, sec)]

theorem timeParts_ne_nil (time : ℕ) : timeParts time ≠ [] := by
  rw [timeParts]
  split_ifs <;> exact List.cons_ne_nil _ _

/- What is not shown is zero. -/
theorem total_timeParts (time : ℕ) : total (timeParts time) = time := by
  rw [timeParts]
  split_ifs <;> simp only [total, TimeUnit.seconds, List.map_cons, List.map_nil, List.sum_cons, List.sum_nil] <;> omega

theorem count_natCast (u : TimeUnit) (n : ℕ) : u.count n = Nat.toDigits 10 n ++ ' ' :: u.word n := by
  rw [TimeUnit.count, printInt, if_neg (by omega), Int.natAbs_natCast]

/- The numbers are those of the parts, and fit into an int. -/
theorem timeToStringText_eq {n : ℕ} (h : n < 3600 * 2 ^ 31) :
    timeToStringText n =
      let hours := TimeUnit.hour.count (n / 3600 : ℕ)
      let mins := TimeUnit.minute.count (n % 3600 / 60 : ℕ)
      let secs := TimeUnit.second.count (n % 60 : ℕ)
      if 0 < n / 3600 then
        if 0 < n % 60 then hours ++ ' ' :: (mins ++ ' ' :: secs)
        else if 0 < n % 3600 / 60 then hours ++ ' ' :: mins
        else hours
      else if 0 < n % 3600 / 60 then
        if 0 < n % 60 then mins ++ ' ' :: secs else mins
      else secs := by
  have hsec : (n : ℤ).tmod 60 = (n % 60 : ℕ) := Int.ofNat_tmod n 60
  have hmin : (((n : ℤ) - (n % 60 : ℕ)).tmod (60 * 60)).tdiv 60 = (n % 3600 / 60 : ℕ) := by
    rw [Int.tmod_eq_emod_of_nonneg (by omega), Int.tdiv_eq_ediv_of_nonneg (by omega)]
    omega
  have hhour : (((n : ℤ) - (n % 60 : ℕ) - (n % 3600 / 60 : ℕ) * 60).tdiv (60 * 60)).bmod (2 ^ 32) = (n / 3600 : ℕ) := by
    rw [Int.tdiv_eq_ediv_of_nonneg (by omega)]
    rw [show ((n : ℤ) - (n % 60 : ℕ) - (n % 3600 / 60 : ℕ) * 60) / (60 * 60) = (n / 3600 : ℕ) by omega]
    exact Int.bmod_eq_of_le (by omega) (by omega)
  simp only [timeToStringText, hsec, hmin, hhour, Int.natCast_pos]

theorem timeToStringText_parts {n : ℕ} (h : n < 3600 * 2 ^ 31) :
    timeToStringText n = [' '].intercalate (spoken (timeParts n)) := by
  rw [timeToStringText_eq h, timeParts]
  simp only [count_natCast]
  split_ifs <;> simp [spoken, List.intercalate]

/-! ### Lengths -/

theorem toDigits_length_le {n : ℕ} (h : n < 60) : (Nat.toDigits 10 n).length ≤ 2 := by
  rw [Nat.toDigits_eq_if (by decide)]
  split
  · exact Nat.le_succ 1
  · rw [List.length_append, Nat.toDigits_eq_if (by decide), if_pos (by omega)]
    exact le_rfl

theorem word_length_le (u : TimeUnit) (n : ℤ) : (u.word n).length ≤ u.one.length + 1 := by
  rw [TimeUnit.word]
  split
  · exact Nat.le_succ _
  · cases u <;> decide +kernel

theorem count_length_le (u : TimeUnit) {n : ℕ} (h : n < 60) : (u.count n).length ≤ u.one.length + 4 := by
  have hdigits := toDigits_length_le h
  have hword := word_length_le u n
  rw [count_natCast, List.length_append, List.length_cons]
  omega

/- Within two hours nothing is longer than the text of the last second before. -/
theorem timeToStringText_length_le {n : ℕ} (h : n ≤ 7200) : (timeToStringText n).length ≤ 28 := by
  have hhour : (TimeUnit.hour.count (n / 3600 : ℕ)).length ≤ 8 := count_length_le .hour (by omega)
  have hmin : (TimeUnit.minute.count (n % 3600 / 60 : ℕ)).length ≤ 10 := count_length_le .minute (by omega)
  have hsec : (TimeUnit.second.count (n % 60 : ℕ)).length ≤ 10 := count_length_le .second (by omega)
  rw [timeToStringText_eq (by omega)]
  split_ifs with hpos hsecpos
  · -- there are seconds only with the one hour
    have hone : n / 3600 = 1 := by omega
    rw [hone] at hhour ⊢
    have hhour : (TimeUnit.hour.count (1 : ℕ)).length = 6 := by decide +kernel
    simp only [List.length_append, List.length_cons]
    omega
  all_goals
    simp only [List.length_append, List.length_cons]
    omega

/-! ### The scales -/

/- The text without what it is padded with. -/
def strip (text : Text) : Text := text.filter fun c => c ≠ emSpace

theorem count_noEmSpace (u : TimeUnit) (n : ℕ) : emSpace ∉ u.count n := by
  rw [count_natCast, List.mem_append, List.mem_cons]
  intro hmem
  obtain hdigits | hspace | hword := hmem
  · exact (toDigits_spaceless n).2 hdigits
  · exact absurd hspace (by decide)
  · exact (u.word_spaceless n).2 hword

theorem timeToStringText_noEmSpace {n : ℕ} (h : n < 3600 * 2 ^ 31) : emSpace ∉ timeToStringText n := by
  have hspace : emSpace ≠ ' ' := by decide
  rw [timeToStringText_eq h]
  split_ifs <;> simp only [List.mem_append, List.mem_cons, count_noEmSpace, hspace, or_false, not_false_eq_true]

theorem strip_of_not_mem (h : emSpace ∉ text) : strip text = text := by
  apply List.filter_eq_self.2
  intro c hc
  rw [decide_eq_true_iff]
  rintro rfl
  exact h hc

theorem strip_replicate (n : ℕ) : strip (List.replicate n emSpace) = [] := by
  apply List.filter_eq_nil_iff.2
  intro c hc
  rw [List.eq_of_mem_replicate hc]
  decide

/- However much is put on which side, the text is still there. -/
theorem strip_formatValueCallbackTime (lower upper padSize : ℤ) (rtl : Bool)
    (h : emSpace ∉ timeToStringText (value * 60)) :
    strip (formatValueCallbackTime lower upper padSize rtl value) = timeToStringText (value * 60) := by
  have hpad := strip_replicate padSize.toNat
  have htext := strip_of_not_mem h
  simp only [strip] at hpad htext ⊢
  rw [formatValueCallbackTime]
  dsimp only
  split_ifs
  · rw [List.filter_append, hpad, htext, List.nil_append]
  · rw [List.filter_append, hpad, htext, List.append_nil]
  · rw [List.filter_append, hpad, htext, List.nil_append]
  · rw [List.filter_append, hpad, htext, List.append_nil]
  · exact htext

/-- The text of a time whose hours an int can count tells the time, also beside a scale, however it is
padded there. Up to two hours none is longer than the one that the padding takes for the longest. -/
theorem time_text_read (hnonneg : 0 ≤ time) (hint : time < 3600 * 2 ^ 31) :
    readTime (timeToStringText time) = some time.toNat ∧
      (∀ lower upper padSize rtl value, value * 60 = time →
        readTime (strip (formatValueCallbackTime lower upper padSize rtl value)) = some time.toNat) ∧
      (time ≤ 7200 → (timeToStringText time).length ≤ (timeToStringText 7199).length) := by
  obtain ⟨n, rfl⟩ := Int.eq_ofNat_of_zero_le hnonneg
  have hn : n < 3600 * 2 ^ 31 := by omega
  have hread : readTime (timeToStringText n) = some n := by
    rw [timeToStringText_parts hn, readTime_spoken (timeParts_ne_nil n), total_timeParts]
  refine ⟨hread, ?_, ?_⟩
  · intro lower upper padSize rtl value hvalue
    have hspace := timeToStringText_noEmSpace hn
    rw [← hvalue] at hspace hread
    rw [strip_formatValueCallbackTime lower upper padSize rtl hspace, hread]
    rfl
  · intro hmost
    have hlongest : (timeToStringText 7199).length = 28 := by decide +kernel
    rw [hlongest]
    exact timeToStringText_length_le (by omega)

/- An hour and a half, with three spaces in front. -/
theorem time_text_read_padded :
    readTime (timeToStringText 5400) = some 5400 ∧
      readTime (strip (formatValueCallbackTime 0 120 3 false 90)) = some 5400 ∧
      formatValueCallbackTime 0 120 3 false 90 =
        List.replicate 3 emSpace ++ "1 hour 30 minutes".toList := by
  have hnonneg : (0 : ℤ) ≤ 5400 := by decide
  obtain ⟨hread, hpadded, -⟩ := time_text_read hnonneg (by decide)
  exact ⟨hread, hpadded 0 120 3 false 90 (by decide), by decide +kernel⟩

end MateScreensaver
