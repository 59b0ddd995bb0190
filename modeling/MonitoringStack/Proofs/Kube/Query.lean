import Mathlib.Data.List.TakeWhile
import MonitoringStack.Kube.Cluster

namespace MonitoringStack.Kube

section Forms

def hexValue (c : Char) : Nat := if c.isDigit then c.toNat - 48 else c.toNat - 55

def formBytes : List Char → List UInt8
  | '%' :: high :: low :: rest => .ofNat (16 * hexValue high + hexValue low) :: formBytes rest
  | '+' :: rest => 32 :: formBytes rest
  | c :: rest => .ofNat c.toNat :: formBytes rest
  | [] => []

def formDecoded? (cs : List Char) : Option String := String.fromUTF8? ⟨(formBytes cs).toArray⟩

theorem hexValue_hexUpper : ∀ n < 16, hexValue (hexUpper n) = n := by decide

theorem formByte_cases : ∀ n < 256,
    (formByte (.ofNat n) = [Char.ofNat n] ∧ Char.ofNat n ≠ '%' ∧ Char.ofNat n ≠ '+' ∧
      (Char.ofNat n).toNat = n) ∨
    (formByte (.ofNat n) = ['+'] ∧ n = 32) ∨
    formByte (.ofNat n) = ['%', hexUpper (n / 16), hexUpper (n % 16)] := by
  decide +kernel

theorem formBytes_formByte (b : UInt8) (rest : List Char) :
    formBytes (formByte b ++ rest) = b :: formBytes rest := by
  have hb : UInt8.ofNat b.toNat = b := UInt8.ofNat_toNat
  have hlt : b.toNat < 256 := b.toNat_lt
  have hcases := formByte_cases b.toNat hlt
  rw [hb] at hcases
  rcases hcases with ⟨hbyte, hpercent, hplus, hchar⟩ | ⟨hbyte, hspace⟩ | hbyte
  · rw [hbyte, List.singleton_append, formBytes, hchar, hb]
    · intro _ _ _ h
      exact absurd h hpercent
    · exact hplus
  · have hspace : b = 32 := by rw [← hb, hspace]; rfl
    rw [hbyte, hspace]
    rfl
  · have hhigh := hexValue_hexUpper (b.toNat / 16) (by omega)
    have hlow := hexValue_hexUpper (b.toNat % 16) (by omega)
    rw [hbyte]
    change UInt8.ofNat (16 * hexValue _ + hexValue _) :: formBytes rest = _
    rw [hhigh, hlow, Nat.div_add_mod, hb]

theorem toList_loop (b : ByteArray) (i : Nat) (bs : List UInt8) :
    ByteArray.toList.loop b i bs = bs.reverse ++ b.data.toList.drop i := by
  fun_induction ByteArray.toList.loop b i bs with
  | case1 i bs h ih =>
    have hlt : i < b.data.size := h
    have hget : b.get! i = b.data[i] := getElem!_pos b.data i h
    have hdrop : b.data.toList.drop i = b.data[i] :: b.data.toList.drop (i + 1) :=
      List.drop_eq_getElem_cons hlt
    rw [ih, List.reverse_cons, List.append_assoc, List.singleton_append, hget, hdrop]
  | case2 i bs h =>
    rw [List.drop_eq_nil_of_le (Nat.le_of_not_lt h), List.append_nil]

theorem toArray_toList_toUTF8 (s : String) : (⟨s.toUTF8.toList.toArray⟩ : ByteArray) = s.toUTF8 := by
  rw [ByteArray.toList, toList_loop]
  rfl

/-- What is written into a form is read from it. -/
theorem formDecoded?_formEncoded (s : String) : formDecoded? (formEncoded s).toList = some s := by
  have hbytes (bs : List UInt8) : formBytes (bs.flatMap formByte) = bs := by
    induction bs with
    | nil => rfl
    | cons b bs ih => rw [List.flatMap_cons, formBytes_formByte, ih]
  rw [formDecoded?, formEncoded, String.toList_ofList, hbytes, toArray_toList_toUTF8]
  change String.fromUTF8? s.toByteArray = some s
  rw [String.fromUTF8?, dif_pos s.isValidUTF8]
  rfl

theorem formEncoded_chars (s : String) : ∀ c ∈ (formEncoded s).toList,
    Http.Target.isQueryChar c = true ∧ c ≠ '&' ∧ c ≠ '=' := by
  have hbytes : ((List.range 256).all fun n => (formByte (.ofNat n)).all fun c =>
      Http.Target.isQueryChar c && c != '&' && c != '=') = true := by decide +kernel
  rw [formEncoded, String.toList_ofList]
  intro c hc
  obtain ⟨b, -, hb⟩ := List.mem_flatMap.1 hc
  have hbyte := List.all_eq_true.1 hbytes b.toNat (List.mem_range.2 b.toNat_lt)
  rw [UInt8.ofNat_toNat] at hbyte
  simpa [and_assoc] using List.all_eq_true.1 hbyte c hb

theorem length_le_utf8ByteSize (cs : List Char) : cs.length ≤ (String.ofList cs).utf8ByteSize := by
  induction cs with
  | nil => exact Nat.zero_le _
  | cons c cs ih =>
    have hsplit : String.ofList (c :: cs) = String.singleton c ++ String.ofList cs :=
      String.toList_inj.1 (by simp)
    have hpos := c.utf8Size_pos
    rw [hsplit, String.utf8ByteSize_append, String.utf8ByteSize_singleton, List.length_cons]
    omega

/-- Nothing gets shorter in a form. -/
theorem utf8ByteSize_le_formEncoded (s : String) :
    s.utf8ByteSize ≤ (formEncoded s).utf8ByteSize := by
  have hbyte (b : UInt8) : 1 ≤ (formByte b).length := by
    unfold formByte
    dsimp only
    split
    · exact Nat.le_refl 1
    · split <;> simp
  have hbytes (bs : List UInt8) : bs.length ≤ (bs.flatMap formByte).length := by
    induction bs with
    | nil => exact Nat.le_refl 0
    | cons b bs ih =>
      have hfirst := hbyte b
      rw [List.flatMap_cons, List.length_append, List.length_cons]
      omega
  have hsize : s.utf8ByteSize = s.toUTF8.toList.length :=
    (congrArg ByteArray.size (toArray_toList_toUTF8 s)).symm
  rw [hsize]
  exact (hbytes _).trans (length_le_utf8ByteSize _)

def parameter? (name query : String) : Option (List Char) :=
  (query.toList.splitOn '&').findSome? fun part =>
    match part.splitOn '=' with
    | [key, value] => if key = name.toList then some value else none
    | _ => none

end Forms

section Targets

theorem ofPath?_eq {path query : List Char}
    (hpath : ∀ c ∈ path, Http.Target.isPathChar c = true)
    (hquery : ∀ c ∈ query, Http.Target.isQueryChar c = true) :
    Http.Target.ofPath? (path ++ '?' :: query) =
      some ⟨String.ofList path, String.ofList query⟩ := by
  have hhash : ∀ c ∈ path ++ '?' :: query, (decide (c ≠ '#')) = true := by
    intro c hc
    apply decide_eq_true
    rintro rfl
    rcases List.mem_append.1 hc with hc | hc
    · exact absurd (hpath _ hc) (by decide)
    · rcases List.mem_cons.1 hc with hc | hc
      · exact absurd hc (by decide)
      · exact absurd (hquery _ hc) (by decide)
  have hmark : ∀ c ∈ path, (decide (c ≠ '?')) = true := by
    intro c hc
    apply decide_eq_true
    rintro rfl
    exact absurd (hpath _ hc) (by decide)
  have hall : (path.all Http.Target.isPathChar && query.all Http.Target.isQueryChar) = true := by
    rw [List.all_eq_true.2 hpath, List.all_eq_true.2 hquery]
    rfl
  have hbefore : (path ++ '?' :: query).takeWhile (· ≠ '?') = path := by
    rw [List.takeWhile_append_of_pos hmark]
    simp
  have hafter : ((path ++ '?' :: query).dropWhile (· ≠ '?')).drop 1 = query := by
    rw [List.dropWhile_append_of_pos hmark]
    simp
  rw [Http.Target.ofPath?]
  simp only [List.takeWhile_eq_self_iff.2 hhash, hbefore, hafter, hall, if_true]

end Targets

end MonitoringStack.Kube
