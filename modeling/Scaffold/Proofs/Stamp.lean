import Scaffold.Proofs.Calendar
import Scaffold.Proofs.Stage
/-!
# Stamps as numbers

The digits of a stamp, read as one number, grow with the seconds. Stamps of the
years 0 to 9999 have fourteen digits and therefore sort as their instants do, and a sign before any
other year keeps all stamps apart.
-/

namespace Scaffold

open Calendar

/-! ## Digits -/

theorem ofDigitChars_padded (places n : Nat) : Nat.ofDigitChars 10 (padded places n) 0 = n := by
  rw [padded, Nat.ofDigitChars_append, Nat.ofDigitChars_replicate_zero, Nat.mul_zero,
    Nat.ofDigitChars_ten_toDigits]

theorem length_padded {places n : Nat} (hplaces : 0 < places) (h : n < 10 ^ places) :
    (padded places n).length = places := by
  have hlength := (Nat.length_toDigits_le_iff (b := 10) (by decide) hplaces).mpr h
  rw [padded, List.length_append, List.length_replicate]
  omega

theorem ofDigitChars_append_zero (cs ds : List Char) :
    Nat.ofDigitChars 10 (cs ++ ds) 0 =
      10 ^ ds.length * Nat.ofDigitChars 10 cs 0 + Nat.ofDigitChars 10 ds 0 := by
  rw [Nat.ofDigitChars_append, Nat.ofDigitChars_eq_ofDigitChars_zero]

theorem ofDigitChars_cons_zero (c : Char) (cs : List Char) :
    Nat.ofDigitChars 10 (c :: cs) 0 =
      10 ^ cs.length * (c.toNat - '0'.toNat) + Nat.ofDigitChars 10 cs 0 := by
  rw [Nat.ofDigitChars_cons, Nat.ofDigitChars_eq_ofDigitChars_zero, Nat.mul_zero, Nat.zero_add]

theorem toNat_of_isDigit {c : Char} (h : c.isDigit = true) : 48 ≤ c.toNat ∧ c.toNat ≤ 57 := by
  simp only [Char.isDigit, Bool.and_eq_true, decide_eq_true_eq, ge_iff_le,
    UInt32.le_iff_toNat_le] at h
  exact h

theorem ofDigitChars_lt {cs : List Char} (h : ∀ c ∈ cs, c.isDigit = true) :
    Nat.ofDigitChars 10 cs 0 < 10 ^ cs.length := by
  induction cs with
  | nil => decide
  | cons c cs ih =>
      obtain ⟨hc, hcs⟩ := List.forall_mem_cons.mp h
      have hdigit : c.toNat - '0'.toNat ≤ 9 := by
        have := toNat_of_isDigit hc
        have hzero : '0'.toNat = 48 := rfl
        omega
      calc Nat.ofDigitChars 10 (c :: cs) 0
          = 10 ^ cs.length * (c.toNat - '0'.toNat) + Nat.ofDigitChars 10 cs 0 :=
            ofDigitChars_cons_zero c cs
        _ < 10 ^ cs.length * 9 + 10 ^ cs.length :=
            Nat.add_lt_add_of_le_of_lt (Nat.mul_le_mul_left _ hdigit) (ih hcs)
        _ = 10 ^ (c :: cs).length := by
            rw [List.length_cons, Nat.pow_succ]
            omega

/-- Digits of one length are ordered as the numbers they denote. -/
theorem lt_of_ofDigitChars_lt {cs ds : List Char} (hcs : ∀ c ∈ cs, c.isDigit = true)
    (hds : ∀ d ∈ ds, d.isDigit = true) (hlength : cs.length = ds.length)
    (h : Nat.ofDigitChars 10 cs 0 < Nat.ofDigitChars 10 ds 0) : cs < ds := by
  induction cs generalizing ds with
  | nil =>
      obtain rfl := List.length_eq_zero_iff.mp hlength.symm
      exact absurd h (Nat.lt_irrefl _)
  | cons c cs ih =>
      obtain ⟨d, ds, rfl⟩ := List.exists_cons_of_length_eq_add_one hlength.symm
      obtain ⟨hc, hcs'⟩ := List.forall_mem_cons.mp hcs
      obtain ⟨hd, hds'⟩ := List.forall_mem_cons.mp hds
      have hlength' : cs.length = ds.length := Nat.succ.inj hlength
      rw [ofDigitChars_cons_zero, ofDigitChars_cons_zero, hlength'] at h
      have hcodes := And.intro (toNat_of_isDigit hc) (toNat_of_isDigit hd)
      have hzero : '0'.toNat = 48 := rfl
      rw [List.cons_lt_cons_iff]
      rcases Nat.lt_trichotomy c.toNat d.toNat with hlt | heq | hgt
      · exact .inl hlt
      · obtain rfl := Char.toNat_inj.mp heq
        exact .inr ⟨rfl, ih hcs' hds' hlength' (Nat.lt_of_add_lt_add_left h)⟩
      · -- a larger first digit outweighs all others
        have hmore : d.toNat - '0'.toNat + 1 ≤ c.toNat - '0'.toNat := by omega
        have hweight := Nat.mul_le_mul_left (10 ^ ds.length) hmore
        have hrest := ofDigitChars_lt hds'
        rw [Nat.mul_add, Nat.mul_one] at hweight
        omega

/-! ## Instants -/

namespace Instant

def date (t : Instant) : Date :=
  Date.ofDays (t.seconds / 86400)

/-- The number that is written with the digits of a time of day. -/
def clock (second : Nat) : Nat :=
  (second / 3600 * 100 + second / 60 % 60) * 100 + second % 60

theorem clock_lt_clock {a b : Nat} (h : a < b) : clock a < clock b := by
  have hhours (n : Nat) : n / 60 / 60 = n / 3600 := Nat.div_div_eq_div_mul n 60 60
  have ha := hhours a
  have hb := hhours b
  unfold clock
  rcases Nat.lt_trichotomy (a / 60) (b / 60) with hminute | hminute | hminute
  · rcases Nat.lt_or_eq_of_le (Nat.div_le_div_right hminute.le : a / 60 / 60 ≤ b / 60 / 60)
      with hhour | hhour <;> omega
  · omega
  · omega

theorem clock_lt {second : Nat} (h : second < 86400) : clock second < 1000000 := by
  unfold clock
  omega

/-- The number that is written with the digits of an instant. -/
def number (seconds : Int) : Int :=
  (Date.ofDays (seconds / 86400)).number * 1000000 + clock (seconds % 86400).toNat

/-- The numbers written with the digits of instants grow with the seconds. -/
theorem number_lt_number {s t : Int} (h : s < t) : number s < number t := by
  have hclock := @clock_lt (s % 86400).toNat (by omega)
  unfold number
  rcases Int.lt_or_eq_of_le (Int.ediv_le_ediv (by decide : (0 : Int) < 86400) h.le) with hday | hday
  · have hdate := number_ofDays_lt hday
    omega
  · have hsecond := @clock_lt_clock (s % 86400).toNat (t % 86400).toNat (by omega)
    rw [hday]
    omega

def restDigits (t : Instant) : List Char :=
  padded 2 t.date.month ++ padded 2 t.date.day ++ padded 2 ((t.seconds % 86400).toNat / 3600) ++
    padded 2 ((t.seconds % 86400).toNat / 60 % 60) ++ padded 2 ((t.seconds % 86400).toNat % 60)

theorem digits_eq (t : Instant) : t.digits = yearDigits t.date.year ++ t.restDigits := by
  simp only [digits, restDigits, List.append_assoc]
  rfl

theorem isDigit_of_mem_restDigits {t : Instant} {c : Char} (h : c ∈ t.restDigits) :
    c.isDigit = true := by
  simp only [restDigits, List.mem_append, or_assoc] at h
  rcases h with h | h | h | h | h <;> exact isDigit_of_mem_padded h

theorem restDigits_lt (t : Instant) : t.date.month < 10 ^ 2 ∧ t.date.day < 10 ^ 2 ∧
    (t.seconds % 86400).toNat / 3600 < 10 ^ 2 ∧ (t.seconds % 86400).toNat / 60 % 60 < 10 ^ 2 ∧
    (t.seconds % 86400).toNat % 60 < 10 ^ 2 := by
  obtain ⟨-, hmonth, -, hday⟩ := isShort_ofDays (t.seconds / 86400)
  unfold date
  omega

theorem length_restDigits (t : Instant) : t.restDigits.length = 10 := by
  obtain ⟨hmonth, hday, hhour, hminute, hsecond⟩ := t.restDigits_lt
  simp only [restDigits, List.length_append]
  rw [length_padded (by decide) hmonth, length_padded (by decide) hday,
    length_padded (by decide) hhour, length_padded (by decide) hminute,
    length_padded (by decide) hsecond]

theorem ofDigitChars_restDigits (t : Instant) :
    Nat.ofDigitChars 10 t.restDigits 0 =
      (t.date.month * 100 + t.date.day) * 1000000 + clock (t.seconds % 86400).toNat := by
  obtain ⟨-, hday, hhour, hminute, hsecond⟩ := t.restDigits_lt
  simp only [restDigits, ofDigitChars_append_zero, ofDigitChars_padded]
  rw [length_padded (by decide) hday, length_padded (by decide) hhour,
    length_padded (by decide) hminute, length_padded (by decide) hsecond]
  unfold clock
  omega

/-! ## Years of four digits -/

theorem yearDigits_of_fourDigits {year : Int} (h : 0 ≤ year) (h' : year ≤ 9999) :
    yearDigits year = padded 4 year.toNat := by
  rw [yearDigits, if_neg (Int.not_lt.mpr h), if_pos h']

theorem length_digits {t : Instant} (h : 0 ≤ t.date.year) (h' : t.date.year ≤ 9999) :
    t.digits.length = 14 := by
  rw [digits_eq, yearDigits_of_fourDigits h h', List.length_append, length_restDigits,
    length_padded (by decide) (by omega)]

theorem isDigit_of_mem_digits {t : Instant} (h : 0 ≤ t.date.year) (h' : t.date.year ≤ 9999)
    {c : Char} (hc : c ∈ t.digits) : c.isDigit = true := by
  rw [digits_eq, yearDigits_of_fourDigits h h', List.mem_append] at hc
  rcases hc with hc | hc
  · exact isDigit_of_mem_padded hc
  · exact isDigit_of_mem_restDigits hc

theorem ofDigitChars_digits {t : Instant} (h : 0 ≤ t.date.year) (h' : t.date.year ≤ 9999) :
    (Nat.ofDigitChars 10 t.digits 0 : Int) = number t.seconds := by
  rw [digits_eq, yearDigits_of_fourDigits h h', ofDigitChars_append_zero, length_restDigits,
    ofDigitChars_padded, ofDigitChars_restDigits]
  unfold number Date.number
  change _ = ((t.date.year * 100 + t.date.month) * 100 + t.date.day) * 1000000 + _
  omega

/-! ## All years -/

theorem head?_yearDigits_eq_minus_iff (year : Int) :
    (yearDigits year).head? = some '-' ↔ year < 0 := by
  have hpadded (n : Nat) : (padded 4 n).head? ≠ some '-' := by
    intro h
    exact absurd (isDigit_of_mem_padded (List.mem_of_head? h)) (by decide)
  unfold yearDigits
  split
  · simp [*]
  · split
    · simp [*]
    · simp [*]

/-- A sign counts as nothing when digits are read. -/
theorem ofDigitChars_yearDigits (year : Int) :
    Nat.ofDigitChars 10 (yearDigits year) 0 = year.natAbs := by
  have hsign (sign : Char) (n : Nat) (h : sign.toNat - '0'.toNat = 0) :
      Nat.ofDigitChars 10 (sign :: padded 4 n) 0 = n := by
    rw [ofDigitChars_cons_zero, h, Nat.mul_zero, Nat.zero_add, ofDigitChars_padded]
  unfold yearDigits
  split
  · exact hsign '-' _ rfl
  · split
    · rw [ofDigitChars_padded]
      omega
    · rw [hsign '+' _ rfl]
      omega

theorem yearDigits_injective {a b : Int} (h : yearDigits a = yearDigits b) : a = b := by
  have hvalue : a.natAbs = b.natAbs := by
    rw [← ofDigitChars_yearDigits, h, ofDigitChars_yearDigits]
  have hsign : a < 0 ↔ b < 0 := by
    rw [← head?_yearDigits_eq_minus_iff, h, head?_yearDigits_eq_minus_iff]
  omega

theorem number_eq_of_digits_eq {s t : Instant} (h : s.digits = t.digits) :
    number s.seconds = number t.seconds := by
  rw [digits_eq, digits_eq] at h
  have hlength : s.restDigits.length = t.restDigits.length := by
    rw [length_restDigits, length_restDigits]
  obtain ⟨hyear, hrest⟩ := List.append_inj' h hlength
  have hyear := yearDigits_injective hyear
  have hnumbers : Nat.ofDigitChars 10 s.restDigits 0 = Nat.ofDigitChars 10 t.restDigits 0 := by
    rw [hrest]
  rw [ofDigitChars_restDigits, ofDigitChars_restDigits] at hnumbers
  change ((s.date.year * 100 + s.date.month) * 100 + s.date.day) * 1000000 + _ =
    ((t.date.year * 100 + t.date.month) * 100 + t.date.day) * 1000000 + _
  omega

theorem seconds_eq_of_stamp_eq {s t : Instant} (h : s.stamp.text = t.stamp.text) :
    s.seconds = t.seconds := by
  have hdigits : s.digits = t.digits := by
    rw [← String.ofList_inj]
    exact h
  have hnumber := number_eq_of_digits_eq hdigits
  rcases Int.lt_trichotomy s.seconds t.seconds with hlt | heq | hgt
  · exact absurd hnumber (number_lt_number hlt).ne
  · exact heq
  · exact absurd hnumber (number_lt_number hgt).ne'

/-! ## The years that have a stamp -/

theorem year_lt_iff {year days : Int} (hfirst : (Date.ofDays days).year = year)
    (hbefore : (Date.ofDays (days - 1)).year < year) (other : Int) :
    (Date.ofDays other).year < year ↔ other < days := by
  constructor
  · intro h
    by_contra hle
    have hyear := year_ofDays_le (Int.not_lt.mp hle)
    omega
  · intro h
    have hyear := year_ofDays_le (Int.le_sub_one_of_lt h)
    omega

theorem ofSeconds?_isSome_iff (seconds : Int) :
    (ofSeconds? seconds).isSome = true ↔
      -262143 ≤ (Date.ofDays (seconds / 86400)).year ∧
        (Date.ofDays (seconds / 86400)).year ≤ 262142 := by
  have hfirst := @year_lt_iff (-262143) (Date.toDays ⟨-262143, 1, 1⟩) (by decide) (by decide)
    (seconds / 86400)
  have hlast := @year_lt_iff 262143 (Date.toDays ⟨262142, 12, 31⟩ + 1) (by decide) (by decide)
    (seconds / 86400)
  have hrange : (ofSeconds? seconds).isSome = true ↔
      firstSecond ≤ seconds ∧ seconds ≤ lastSecond := by
    have hwhole := @Int.mul_ediv_cancel seconds 1000000000 (by decide)
    unfold ofSeconds?
    split <;> next h => simpa [hwhole] using h
  rw [hrange]
  unfold firstSecond lastSecond
  omega

/-! ## Stamps in order -/

theorem stamp_lt_stamp {s t : Instant} (h : s.seconds < t.seconds) (hs : 0 ≤ s.date.year)
    (ht : t.date.year ≤ 9999) : s.stamp.text < t.stamp.text := by
  have hyears : s.date.year ≤ t.date.year :=
    year_ofDays_le (Int.ediv_le_ediv (by decide) h.le)
  have hs' : s.date.year ≤ 9999 := hyears.trans ht
  have ht' : 0 ≤ t.date.year := hs.trans hyears
  have hnumber : Nat.ofDigitChars 10 s.digits 0 < Nat.ofDigitChars 10 t.digits 0 := by
    rw [← Int.ofNat_lt, ofDigitChars_digits hs hs', ofDigitChars_digits ht' ht]
    exact number_lt_number h
  have hlength : s.digits.length = t.digits.length := by
    rw [length_digits hs hs', length_digits ht' ht]
  have hdigits : s.digits < t.digits :=
    lt_of_ofDigitChars_lt (fun _ => isDigit_of_mem_digits hs hs')
      (fun _ => isDigit_of_mem_digits ht' ht) hlength hnumber
  change (String.ofList s.digits).toList < (String.ofList t.digits).toList
  rwa [String.toList_ofList, String.toList_ofList]

/-- Instants of different seconds have different stamps. In the years 0 to 9999 these are fourteen
digits each, and the earlier instant has the smaller one. Dates are those of the Gregorian calendar,
and the seconds that have a stamp are all those of the years that have one. -/
theorem stamps_sort_as_instants (s t : Instant) (h : s.seconds < t.seconds) :
    s.stamp.text ≠ t.stamp.text ∧
    (0 ≤ s.date.year → s.date.year ≤ 9999 → 0 ≤ t.date.year → t.date.year ≤ 9999 →
      s.stamp.text.toList.length = 14 ∧ (∀ c ∈ s.stamp.text.toList, c.isDigit = true) ∧
      t.stamp.text.toList.length = 14 ∧ (∀ c ∈ t.stamp.text.toList, c.isDigit = true) ∧
      s.stamp.text < t.stamp.text) ∧
    Date.ofDays 0 = ⟨1970, 1, 1⟩ ∧
    (∀ days, Date.ofDays (days + 1) = (Date.ofDays days).next) ∧
    ∀ seconds, (ofSeconds? seconds).isSome = true ↔
      -262143 ≤ (Date.ofDays (seconds / 86400)).year ∧
        (Date.ofDays (seconds / 86400)).year ≤ 262142 := by
  have htext (u : Instant) : u.stamp.text.toList = u.digits := String.toList_ofList
  refine ⟨fun heq => ?_, ?_, rfl, ofDays_succ, ofSeconds?_isSome_iff⟩
  · exact h.ne (seconds_eq_of_stamp_eq heq)
  · intro hs hs' ht ht'
    rw [htext, htext]
    exact ⟨length_digits hs hs', fun _ => isDigit_of_mem_digits hs hs', length_digits ht ht',
      fun _ => isDigit_of_mem_digits ht ht', stamp_lt_stamp h hs ht'⟩

/-- The last nanosecond of a year and the first one of the next. -/
theorem stamps_around_new_year :
    let s : Instant := ⟨1735689599999999999, by decide⟩
    let t : Instant := ⟨1735689600000000000, by decide⟩
    s.stamp.text = "20241231235959" ∧ t.stamp.text = "20250101000000" ∧
      s.stamp.text < t.stamp.text := by
  intro s t
  have hsort := (stamps_sort_as_instants s t (by decide)).2.1
  exact ⟨by decide, by decide,
    (hsort (by decide) (by decide) (by decide) (by decide)).2.2.2.2⟩

end Instant

end Scaffold
