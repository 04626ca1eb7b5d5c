import Mathlib.Data.List.Lex
import Mathlib.Tactic.SplitIfs
import SensorRelay.Text.Encoding

/-!
# Texts as bytes

The UTF-8 bytes of a text are read as that text (`ofUtf8?_utf8`), so that no two texts have the
same bytes. To order texts by their characters is to order them by their bytes (`bytesLt_utf8`) :
a character of more bytes begins with a greater one, and of as many bytes the first that differ
are digits of the codes.
-/

namespace SensorRelay.Text

theorem toList_loop_eq (bs : ByteArray) (i : Nat) (r : List UInt8) :
    ByteArray.toList.loop bs i r = r.reverse ++ bs.data.toList.drop i := by
  fun_induction ByteArray.toList.loop bs i r with
  | case1 i r h ih =>
    have hi : i < bs.data.toList.length := h
    have hget : bs.get! i = bs.data.toList[i] := getElem!_pos bs.data i h
    rw [ih, List.reverse_cons, List.append_assoc, List.singleton_append, hget,
      List.drop_eq_getElem_cons hi]
  | case2 i r h =>
    have hi : bs.data.toList.length ≤ i := Nat.le_of_not_lt h
    rw [List.drop_of_length_le hi, List.append_nil]

theorem toList_eq_toList_data (bs : ByteArray) : bs.toList = bs.data.toList :=
  toList_loop_eq bs 0 []

/-- A text comes back from its bytes. -/
theorem ofUtf8?_utf8 (s : String) : ofUtf8? (utf8 s) = some s := by
  have hbytes : (⟨(utf8 s).toArray⟩ : ByteArray) = s.toByteArray := by
    rw [utf8, String.toUTF8_eq_toByteArray, toList_eq_toList_data]
  rw [ofUtf8?, hbytes, String.fromUTF8?, dif_pos s.isValidUTF8]
  rfl

/-! ## Order -/

/-- The order of bytes : the first that differ decide, and what begins another comes before it. -/
def BytesLt : Bytes → Bytes → Prop :=
  List.Lex fun a b => a.toNat < b.toNat

theorem utf8_eq (s : String) : utf8 s = s.toList.flatMap String.utf8EncodeChar := by
  have hbytes : s.toByteArray = s.toList.utf8Encode := by
    rw [← String.toByteArray_ofList, String.ofList_toList]
  rw [utf8, String.toUTF8_eq_toByteArray, toList_eq_toList_data, hbytes, List.utf8Encode,
    List.data_toByteArray]

theorem bytesLt_cons {m n : Nat} {u v : Bytes} (hn : n < 256) (hmn : m ≤ n)
    (hrest : m = n → BytesLt u v) : BytesLt (UInt8.ofNat m :: u) (UInt8.ofNat n :: v) := by
  rcases Nat.lt_or_eq_of_le hmn with hlt | rfl
  · refine .rel ?_
    rwa [UInt8.toNat_ofNat', UInt8.toNat_ofNat', Nat.mod_eq_of_lt hn,
      Nat.mod_eq_of_lt (Nat.lt_trans hlt hn)]
  · exact .cons (hrest rfl)

/-- The bytes of a character come before those of one with a greater code, whatever follows. -/
theorem bytesLt_utf8EncodeChar {c d : Char} (h : c < d) (u v : Bytes) :
    BytesLt (String.utf8EncodeChar c ++ u) (String.utf8EncodeChar d ++ v) := by
  have hcd : c.val.toNat < d.val.toNat := h
  have hd : d.val.toNat < 1114112 := by
    rcases d.valid with hv | hv
    · exact Nat.lt_trans hv (by decide)
    · exact hv.2
  simp only [String.utf8EncodeChar]
  generalize c.val.toNat = m at hcd ⊢
  generalize d.val.toNat = n at hcd hd ⊢
  -- More bytes begin with a greater one; of as many the digits of the codes decide.
  by_cases hlonger : m ≤ 127 ∧ 127 < n ∨ m ≤ 2047 ∧ 2047 < n ∨ m ≤ 65535 ∧ 65535 < n
  · split_ifs <;> first | omega | exact bytesLt_cons (by omega) (by omega) fun _ => by omega
  · split_ifs
    · exact bytesLt_cons (by omega) (by omega) fun _ => by omega
    all_goals try omega
    · refine bytesLt_cons (by omega) (by omega) fun _ => ?_
      exact bytesLt_cons (by omega) (by omega) fun _ => by omega
    · refine bytesLt_cons (by omega) (by omega) fun _ => ?_
      refine bytesLt_cons (by omega) (by omega) fun _ => ?_
      exact bytesLt_cons (by omega) (by omega) fun _ => by omega
    · refine bytesLt_cons (by omega) (by omega) fun _ => ?_
      refine bytesLt_cons (by omega) (by omega) fun _ => ?_
      refine bytesLt_cons (by omega) (by omega) fun _ => ?_
      exact bytesLt_cons (by omega) (by omega) fun _ => by omega

/-- The bytes of texts are in the order of the texts. -/
theorem bytesLt_utf8 {a b : String} (h : a < b) : BytesLt (utf8 a) (utf8 b) := by
  have hchars : List.Lex (fun c d => c < d) a.toList b.toList := String.lt_iff.1 h
  rw [utf8_eq, utf8_eq]
  generalize a.toList = cs at hchars ⊢
  generalize b.toList = ds at hchars ⊢
  induction hchars with
  | nil =>
    obtain ⟨x, xs, hx⟩ := List.exists_cons_of_ne_nil String.utf8EncodeChar_ne_nil
    rw [List.flatMap_nil, List.flatMap_cons, hx]
    exact .nil
  | rel hcd =>
    rw [List.flatMap_cons, List.flatMap_cons]
    exact bytesLt_utf8EncodeChar hcd _ _
  | cons _ ih =>
    rw [List.flatMap_cons, List.flatMap_cons]
    exact List.Lex.append_left _ ih _

end SensorRelay.Text
