import MonitoringStack.Text.Timestamp
import Mathlib.Data.Nat.Digits.Defs

namespace MonitoringStack

namespace Text

theorem isBlank_of_isDigit {c : Char} (h : c.isDigit = true) : isBlank c = false := by
  have hrange : 48 ≤ c.toNat ∧ c.toNat ≤ 57 := by
    simpa [Char.isDigit, UInt32.le_iff_toNat_le] using h
  simp only [isBlank, Bool.or_eq_false_iff, Bool.and_eq_false_iff, decide_eq_false_iff_not]
  omega

theorem dropBlanks_cons {c : Char} {cs : List Char} (h : isBlank c = false) :
    dropBlanks (c :: cs) = c :: cs := by
  simp [dropBlanks, h]

theorem dropBlanks_digits {ds : List Char} (hds : ∀ c ∈ ds, c.isDigit = true) (hne : ds ≠ [])
    (cs : List Char) : dropBlanks (ds ++ cs) = ds ++ cs := by
  obtain ⟨d, ds, rfl⟩ := List.exists_cons_of_ne_nil hne
  exact dropBlanks_cons (isBlank_of_isDigit (hds d List.mem_cons_self))

end Text

namespace Timestamp

section Padded

variable (width n : Nat)

theorem toList_padded : (padded width n).toList =
    List.replicate (width - (Nat.toDigits 10 n).length) '0' ++ Nat.toDigits 10 n := by
  have hlength : (toString n).length = (Nat.toDigits 10 n).length := by
    rw [← String.length_toList, ← Nat.toList_repr]
    rfl
  simp only [padded, String.toList_append, String.toList_ofList, hlength]
  exact congrArg _ Nat.toList_repr

theorem isDigit_padded : ∀ c ∈ (padded width n).toList, c.isDigit = true := by
  intro c hc
  rw [toList_padded] at hc
  rcases List.mem_append.1 hc with hc | hc
  · rw [List.eq_of_mem_replicate hc]
    rfl
  · exact Nat.isDigit_of_mem_toDigits (by decide) (by decide) hc

theorem padded_ne_nil : (padded width n).toList ≠ [] := by
  rw [toList_padded]
  exact List.append_ne_nil_of_right_ne_nil _ Nat.toDigits_ne_nil

theorem value_padded : Reader.value (padded width n).toList = n := by
  have hvalue (cs : List Char) : Reader.value cs = Nat.ofDigitChars 10 cs 0 := by
    simp only [Reader.value, Nat.ofDigitChars_eq_foldl, Nat.mul_comm]
    rfl
  rw [hvalue, toList_padded, Nat.ofDigitChars_append, Nat.ofDigitChars_replicate_zero, Nat.mul_zero,
    Nat.ofDigitChars_ten_toDigits]

theorem length_padded {width n : Nat} (hpos : 0 < width) (h : n < 10 ^ width) :
    (padded width n).toList.length = width := by
  have hle := (Nat.length_toDigits_le_iff (by decide) hpos).2 h
  rw [toList_padded, List.length_append, List.length_replicate]
  omega

end Padded

namespace Reader

open Text

variable {cs : List Char}

theorem digits_append {width : Nat} {ds : List Char} (hds : ∀ c ∈ ds, c.isDigit = true)
    (hne : ds ≠ []) (hwidth : ds.length ≤ width)
    (hstop : ds.length < width → cs.head?.any Char.isDigit = false) :
    digits width (ds ++ cs) = .ok (ds, cs) := by
  have hrest : (cs.take (width - ds.length)).takeWhile Char.isDigit = [] := by
    rcases Nat.eq_or_lt_of_le hwidth with heq | hlt
    · simp [heq]
    · have hhead := hstop hlt
      cases cs with
      | nil => simp
      | cons c cs =>
        obtain ⟨k, hk⟩ := Nat.exists_eq_add_of_lt hlt
        have hc : c.isDigit = false := by simpa using hhead
        rw [show width - ds.length = k + 1 by omega, List.take_succ_cons,
          List.takeWhile_cons_of_neg (by simp [hc])]
  have hrun : ((ds ++ cs).take width).takeWhile Char.isDigit = ds := by
    rw [List.take_append, List.take_of_length_le hwidth, List.takeWhile_append_of_pos hds, hrest,
      List.append_nil]
  unfold digits
  rw [hrun]
  cases ds with
  | nil => exact absurd rfl hne
  | cons d ds => simp

theorem digits_padded {width n : Nat} (hpos : 0 < width) (h : n < 10 ^ width) (cs : List Char) :
    digits width ((padded width n).toList ++ cs) = .ok ((padded width n).toList, cs) := by
  have hlength := length_padded hpos h
  exact digits_append (isDigit_padded width n) (padded_ne_nil width n) hlength.le
    fun hlt => absurd hlength hlt.ne

theorem twoDigits_padded {low high n : Nat} (h : n < 100) (hlow : low ≤ n) (hhigh : n ≤ high) :
    twoDigits low high ((padded 2 n).toList ++ cs) = .ok (n, cs) := by
  rw [twoDigits, dropBlanks_digits (isDigit_padded 2 n) (padded_ne_nil 2 n),
    digits_padded (by decide) h]
  simp only [bind, Except.bind, value_padded, hlow, hhigh, and_self, if_true]
  rfl

theorem padded_append_ne {width n : Nat} {c : Char} {rest : List Char} (h : c.isDigit = false) :
    (padded width n).toList ++ cs ≠ c :: rest := by
  intro heq
  obtain ⟨d, ds, hds⟩ := List.exists_cons_of_ne_nil (padded_ne_nil width n)
  have hd : d.isDigit = true := isDigit_padded width n d (hds ▸ List.mem_cons_self)
  rw [hds] at heq
  obtain ⟨rfl, -⟩ := List.cons.inj heq
  rw [h] at hd
  cases hd

def signedYear (sign : Int) (width : Nat) (cs : List Char) : Except Flaw (Int × List Char) := do
  let (ds, cs) ← digits width cs
  let n := sign * value ds
  if -0x80000000 ≤ n ∧ n ≤ 0x7FFFFFFF then return (n, cs) else throw Flaw.outOfRange

theorem yearPart_minus (cs : List Char) : yearPart ('-' :: cs) = signedYear (-1) cs.length cs := rfl

theorem yearPart_plus (cs : List Char) : yearPart ('+' :: cs) = signedYear 1 cs.length cs := rfl

theorem yearPart_unsigned {ds : List Char} (hblanks : dropBlanks ds = ds)
    (hminus : ∀ rest, ds ≠ '-' :: rest) (hplus : ∀ rest, ds ≠ '+' :: rest) :
    yearPart ds = signedYear 1 4 ds := by
  rw [yearPart, hblanks]
  split
  rename_i sign width cs heq
  split at heq
  · exact absurd rfl (hminus _)
  · exact absurd rfl (hplus _)
  · cases heq
    rfl

theorem signedYear_padded {sign : Int} {width n : Nat}
    (hread : digits width ((padded 4 n).toList ++ cs) = .ok ((padded 4 n).toList, cs))
    (h : -0x80000000 ≤ sign * n ∧ sign * n ≤ 0x7FFFFFFF) :
    signedYear sign width ((padded 4 n).toList ++ cs) = .ok (sign * n, cs) := by
  rw [signedYear, hread]
  simp only [bind, Except.bind, value_padded, h, and_self, if_true]
  rfl

theorem digits_before_dash (n : Nat) :
    digits ((padded 4 n).toList ++ '-' :: cs).length ((padded 4 n).toList ++ '-' :: cs) =
      .ok ((padded 4 n).toList, '-' :: cs) := by
  refine digits_append (isDigit_padded 4 n) (padded_ne_nil 4 n) ?_ fun _ => rfl
  rw [List.length_append]
  exact Nat.le_add_right _ _

theorem yearPart_yearText {year : Int} (h : -262143 ≤ year ∧ year ≤ 262142) :
    yearPart ((yearText year).toList ++ '-' :: cs) = .ok (year, '-' :: cs) := by
  unfold yearText
  split
  · rw [yearPart_unsigned (dropBlanks_digits (isDigit_padded _ _) (padded_ne_nil _ _) _)
      (fun _ => padded_append_ne rfl) (fun _ => padded_append_ne rfl),
      signedYear_padded (digits_padded (by decide) (by omega) _) (by omega)]
    rw [show (1 : Int) * year.toNat = year by omega]
  · rw [String.toList_append]
    split
    · have hread : yearPart ('-' :: ((padded 4 year.natAbs).toList ++ '-' :: cs)) = _ :=
        (yearPart_minus _).trans (signedYear_padded (digits_before_dash _) (by omega))
      rwa [show (-1 : Int) * year.natAbs = year by omega] at hread
    · have hread : yearPart ('+' :: ((padded 4 year.natAbs).toList ++ '-' :: cs)) = _ :=
        (yearPart_plus _).trans (signedYear_padded (digits_before_dash _) (by omega))
      rwa [show (1 : Int) * year.natAbs = year by omega] at hread

theorem fractionPart_padded {width m n : Nat} (hpos : 0 < width) (hwidth : width ≤ 9)
    (h : m < 10 ^ width) (hn : m * 10 ^ (9 - width) = n) :
    fractionPart (("." ++ padded width m).toList ++ 'Z' :: cs) = .ok (n, 'Z' :: cs) := by
  have hlength := length_padded hpos h
  have hread : digits 9 ((padded width m).toList ++ 'Z' :: cs) =
      .ok ((padded width m).toList, 'Z' :: cs) := by
    have hle : (padded width m).toList.length ≤ 9 := hlength.trans_le hwidth
    exact digits_append (isDigit_padded width m) (padded_ne_nil width m) hle fun _ => rfl
  have hrest : ('Z' :: cs).dropWhile Char.isDigit = 'Z' :: cs := rfl
  have htext : ("." ++ padded width m).toList ++ 'Z' :: cs =
      '.' :: ((padded width m).toList ++ 'Z' :: cs) := by
    rw [String.toList_append]
    rfl
  rw [htext, fractionPart, hread]
  simp only [bind, Except.bind, pure, Except.pure, value_padded, hlength, hrest, Nat.pow_eq, hn]

theorem fractionPart_fractionText {n : Nat} (h : n < 1000000000) :
    fractionPart ((fractionText n).toList ++ 'Z' :: cs) = .ok (n, 'Z' :: cs) := by
  unfold fractionText
  split
  · subst n
    rfl
  split
  · exact fractionPart_padded (by decide) (by decide) (by omega) (by omega)
  split
  · exact fractionPart_padded (by decide) (by decide) (by omega) (by omega)
  · exact fractionPart_padded (by decide) (by decide) (by omega) (by omega)

end Reader

theorem ofParts?_self (t : Timestamp) :
    ofParts? t.year t.month t.day t.hour t.minute t.second t.nanosecond = some t :=
  dif_pos ⟨t.year_mem, t.month_mem, t.day_mem, t.hour_lt, t.minute_lt, t.second_le,
    t.nanosecond_lt⟩

theorem minutesBefore?_zero (t : Timestamp) : t.minutesBefore? 0 = some t := by
  have hhour := t.hour_lt
  have hminute := t.minute_lt
  have hm : ((((t.hour : Int) * 60 + t.minute - 0) % 1440).toNat) = t.hour * 60 + t.minute := by
    omega
  unfold minutesBefore?
  dsimp only
  rw [if_neg (by omega), if_pos (by omega), hm]
  rw [show (t.hour * 60 + t.minute) / 60 = t.hour by omega,
    show (t.hour * 60 + t.minute) % 60 = t.minute by omega]
  exact t.ofParts?_self

theorem day_le (t : Timestamp) : 1 ≤ t.day ∧ t.day ≤ 31 := by
  have hmonth : daysInMonth t.year t.month ≤ 31 := by
    unfold daysInMonth
    split
    · split <;> decide
    all_goals decide
  exact ⟨t.day_mem.1, t.day_mem.2.trans hmonth⟩

open Reader in
/-- What is written for a moment is read as that moment. -/
theorem read_text (t : Timestamp) : read t.text = .ok t := by
  have htext : t.text.toList = (yearText t.year).toList ++ '-' :: ((padded 2 t.month).toList ++
      '-' :: ((padded 2 t.day).toList ++ 'T' :: ((padded 2 t.hour).toList ++ ':' ::
        ((padded 2 t.minute).toList ++ ':' :: ((padded 2 t.second).toList ++
          ((fractionText t.nanosecond).toList ++ ['Z'])))))) := by
    simp [text, secondsText]
  have hmonth := t.month_mem
  have hday := t.day_le
  have hhour := t.hour_lt
  have hminute := t.minute_lt
  have hsecond := t.second_le
  have hdash (cs : List Char) : mark '-' (Text.dropBlanks ('-' :: cs)) = .ok cs := rfl
  have hcolon (cs : List Char) : mark ':' (Text.dropBlanks (':' :: cs)) = .ok cs := rfl
  have hbreak (cs : List Char) : dateBreak ('T' :: cs) = .ok cs := rfl
  have hzone : offsetPart (Text.dropBlanks ['Z']) = .ok (0, []) := rfl
  rw [read, htext, yearPart_yearText t.year_mem]
  simp (disch := omega) only [bind, Except.bind, hdash, hcolon, hbreak, hzone, twoDigits_padded,
    fractionPart_fractionText t.nanosecond_lt, ofParts?_self, minutesBefore?_zero]
  rfl

theorem read?_text (t : Timestamp) : read? t.text = some t := by
  rw [read?, read_text]
  rfl

end Timestamp

end MonitoringStack
