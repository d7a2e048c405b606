import Mathlib.Data.String.Basic

/-!
# Texts are ordered as their bytes are

Comparing two texts character by character gives the same as comparing their bytes: of two
characters the greater one also has the greater bytes, and neither is a beginning of the other.
-/

namespace Footage.Text

set_option autoImplicit false

def textBytes (text : String) : List UInt8 := text.toUTF8.data.toList

/-- The first bytes differ from the second before either end, and are less there. -/
def Leads (first second : List UInt8) : Prop :=
  ∀ behind later, first ++ behind < second ++ later

variable {first second : List UInt8} {low high : UInt8} {less greater : Nat}

theorem leads_head (below : low < high) (rest others : List UInt8) :
    Leads (low :: rest) (high :: others) :=
  fun _ _ => List.cons_lt_cons_iff.mpr (.inl below)

theorem Leads.prepend (leads : Leads first second) (front : List UInt8) :
    Leads (front ++ first) (front ++ second) := by
  intro behind later
  induction front with
  | nil => exact leads behind later
  | cons byte front ih => exact List.cons_lt_cons_iff.mpr (.inr ⟨rfl, ih⟩)

theorem Leads.append (leads : Leads first second) (rest others : List UInt8) :
    Leads (first ++ rest) (second ++ others) := by
  intro behind later
  rw [List.append_assoc, List.append_assoc]
  exact leads _ _

theorem byte_lt (below : less < greater) (small : greater < 256) :
    UInt8.ofNat less < UInt8.ofNat greater := by
  rw [UInt8.lt_iff_toNat_lt, UInt8.toNat_ofNat', UInt8.toNat_ofNat']
  omega

/-- The last byte of a number counts where the bytes before are the same. -/
theorem leads_snoc (below : less < greater)
    (before : less / 64 < greater / 64 → Leads first second)
    (same : less / 64 = greater / 64 → first = second) :
    Leads (first ++ [UInt8.ofNat (less % 64 + 128)])
      (second ++ [UInt8.ofNat (greater % 64 + 128)]) := by
  rcases Nat.lt_or_eq_of_le (Nat.div_le_div_right below.le) with smaller | equal
  · exact (before smaller).append _ _
  · rw [same equal]
    exact (leads_head (byte_lt (by omega) (by omega)) [] []).prepend second

theorem leads_two (below : less < greater) (front : less / 64 < greater / 64 → low < high)
    (same : less / 64 = greater / 64 → low = high) :
    Leads [low, UInt8.ofNat (less % 64 + 128)] [high, UInt8.ofNat (greater % 64 + 128)] :=
  leads_snoc below (fun smaller => leads_head (front smaller) [] [])
    (fun equal => congrArg ([·]) (same equal))

theorem leads_three (below : less < greater) (front : less / 4096 < greater / 4096 → low < high)
    (same : less / 4096 = greater / 4096 → low = high) :
    Leads [low, UInt8.ofNat (less / 64 % 64 + 128), UInt8.ofNat (less % 64 + 128)]
      [high, UInt8.ofNat (greater / 64 % 64 + 128), UInt8.ofNat (greater % 64 + 128)] := by
  refine leads_snoc below (fun smaller => leads_two smaller ?_ ?_) fun equal => ?_
  · rwa [Nat.div_div_eq_div_mul, Nat.div_div_eq_div_mul]
  · rwa [Nat.div_div_eq_div_mul, Nat.div_div_eq_div_mul]
  · rw [equal, same (by omega)]

theorem leads_four (below : less < greater) (front : less / 262144 < greater / 262144 → low < high)
    (same : less / 262144 = greater / 262144 → low = high) :
    Leads
      [low, UInt8.ofNat (less / 4096 % 64 + 128), UInt8.ofNat (less / 64 % 64 + 128),
        UInt8.ofNat (less % 64 + 128)]
      [high, UInt8.ofNat (greater / 4096 % 64 + 128), UInt8.ofNat (greater / 64 % 64 + 128),
        UInt8.ofNat (greater % 64 + 128)] := by
  have upper (number : Nat) : number / 4096 = number / 64 / 64 := by
    rw [Nat.div_div_eq_div_mul]
  rw [upper less, upper greater]
  refine leads_snoc below (fun smaller => leads_three smaller ?_ ?_) fun equal => ?_
  · rwa [Nat.div_div_eq_div_mul, Nat.div_div_eq_div_mul]
  · rwa [Nat.div_div_eq_div_mul, Nat.div_div_eq_div_mul]
  · rw [equal, same (by omega)]

/-- Characters of more bytes are greater and have a greater first byte. -/
theorem leads_char {first second : Char} (below : first < second) :
    Leads (String.utf8EncodeChar first) (String.utf8EncodeChar second) := by
  have values : first.val.toNat < second.val.toNat := below
  have bounded : second.val.toNat < 1114112 := by
    rcases second.valid with low | ⟨-, high⟩
    · exact Nat.lt_trans low (by decide)
    · exact high
  unfold String.utf8EncodeChar
  generalize first.val.toNat = less at values
  generalize second.val.toNat = greater at values bounded
  have head (before after : Nat) (rest others : List UInt8) (smaller : before < after)
      (small : after < 256) : Leads (UInt8.ofNat before :: rest) (UInt8.ofNat after :: others) :=
    leads_head (byte_lt smaller small) rest others
  by_cases one : greater ≤ 0x7f
  · simp only [one, show less ≤ 0x7f by omega, if_true]
    exact head _ _ [] [] values (by omega)
  simp only [one, if_false]
  by_cases two : greater ≤ 0x7ff
  · simp only [two, if_true]
    split
    · exact head _ _ _ _ (by omega) (by omega)
    · simp only [show less ≤ 0x7ff by omega, if_true]
      exact leads_two values (fun _ => byte_lt (by omega) (by omega)) fun equal => by rw [equal]
  simp only [two, if_false]
  by_cases three : greater ≤ 0xffff
  · simp only [three, if_true]
    split
    · exact head _ _ _ _ (by omega) (by omega)
    split
    · exact head _ _ _ _ (by omega) (by omega)
    · simp only [show less ≤ 0xffff by omega, if_true]
      exact leads_three values (fun _ => byte_lt (by omega) (by omega)) fun equal => by rw [equal]
  simp only [three, if_false]
  split
  · exact head _ _ _ _ (by omega) (by omega)
  split
  · exact head _ _ _ _ (by omega) (by omega)
  split
  · exact head _ _ _ _ (by omega) (by omega)
  · exact leads_four values (fun _ => byte_lt (by omega) (by omega)) fun equal => by rw [equal]

theorem text_bytes_eq (text : String) :
    textBytes text = text.toList.flatMap String.utf8EncodeChar := by
  unfold textBytes
  rw [String.toUTF8_eq_toByteArray, ← String.utf8Encode_toList, List.utf8Encode]
  simp

theorem bytes_lt_of_lt {front back : List Char} (below : front < back) :
    front.flatMap String.utf8EncodeChar < back.flatMap String.utf8EncodeChar := by
  induction below with
  | @nil char rest =>
      obtain ⟨byte, bytes, same⟩ :=
        List.exists_cons_of_ne_nil (String.utf8EncodeChar_ne_nil (c := char))
      rw [List.flatMap_cons, same]
      exact List.nil_lt_cons byte _
  | rel smaller =>
      rw [List.flatMap_cons, List.flatMap_cons]
      exact leads_char smaller _ _
  | @cons char front back _ ih =>
      rw [List.flatMap_cons, List.flatMap_cons]
      generalize String.utf8EncodeChar char = bytes
      induction bytes with
      | nil => exact ih
      | cons byte bytes further => exact List.cons_lt_cons_iff.mpr (.inr ⟨rfl, further⟩)

theorem text_lt_iff {first second : String} :
    first < second ↔ textBytes first < textBytes second := by
  rw [String.lt_iff_toList_lt, text_bytes_eq, text_bytes_eq]
  constructor
  · exact bytes_lt_of_lt
  · intro below
    rcases lt_trichotomy first.toList second.toList with smaller | same | greater
    · exact smaller
    · rw [same] at below
      exact absurd below (List.lt_irrefl _)
    · exact absurd below (List.lt_asymm (bytes_lt_of_lt greater))

end Footage.Text
