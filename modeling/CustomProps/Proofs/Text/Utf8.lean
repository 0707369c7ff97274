import CustomProps.Proofs.Text.Bytes
/-!
# The bytes of a text

A byte below 128 in the bytes of a text is a character of its own, so a text can be parted before
and after it. That is why cutting at parentheses, commas, dashes and spaces never splits a
character.
-/
namespace CustomProps

/-- The bytes of a text in UTF-8. -/
def utf8 (s : String) : List UInt8 := s.toByteArray.data.toList

@[simp]
theorem utf8_empty : utf8 "" = [] := rfl

@[simp]
theorem utf8_append (s t : String) : utf8 (s ++ t) = utf8 s ++ utf8 t := by
  simp [utf8, String.toByteArray_append]

theorem length_utf8 (s : String) : (utf8 s).length = s.utf8ByteSize := rfl

theorem utf8_injective {s t : String} (h : utf8 s = utf8 t) : s = t := by
  refine String.toByteArray_inj.mp (ByteArray.ext (Array.ext' ?_))
  exact h

theorem utf8_eq_flatMap (s : String) : utf8 s = s.toList.flatMap String.utf8EncodeChar := by
  obtain ⟨l, rfl⟩ := s.exists_eq_ofList
  simp [utf8, List.utf8Encode]

theorem utf8_singleton (c : Char) : utf8 (String.singleton c) = String.utf8EncodeChar c := by
  simp [utf8_eq_flatMap]

theorem append_inj_of_utf8ByteSize {a b y z : String} (h : a ++ y = b ++ z)
    (hsize : a.utf8ByteSize = b.utf8ByteSize) : a = b ∧ y = z := by
  have hbytes : utf8 a ++ utf8 y = utf8 b ++ utf8 z := by
    rw [← utf8_append, h, utf8_append]
  obtain ⟨h₁, h₂⟩ := List.append_inj hbytes hsize
  exact ⟨utf8_injective h₁, utf8_injective h₂⟩

/-! ### Characters of one byte -/

theorem not_ofNat_lt {k : Nat} (hk : 128 ≤ k) (hlt : k < 256) : ¬UInt8.ofNat k < 0x80 := by
  rw [UInt8.lt_iff_toNat_lt, UInt8.toNat_ofNat_of_lt' hlt]
  exact Nat.not_lt.mpr hk

/-- A byte below 128 is all there is of its character. -/
theorem utf8EncodeChar_of_mem {c : Char} {x : UInt8} (hx : x ∈ String.utf8EncodeChar c)
    (hlt : x < 0x80) : String.utf8EncodeChar c = [x] := by
  unfold String.utf8EncodeChar at hx ⊢
  dsimp only at hx ⊢
  split at hx
  · rename_i h
    rw [if_pos h]
    rw [List.mem_singleton] at hx
    rw [hx]
  -- each byte of a longer character is some number below 128 and 128 more
  all_goals
    exfalso
    repeat' split at hx
    all_goals
      simp only [List.mem_cons, List.not_mem_nil, or_false] at hx
      rcases hx with rfl | hx
      · exact not_ofNat_lt (by omega) (by omega) hlt
      · repeat' rcases hx with rfl | hx
        all_goals
          try subst hx
          exact not_ofNat_lt (by omega) (by omega) hlt

theorem utf8EncodeChar_ne_nil (c : Char) : String.utf8EncodeChar c ≠ [] := by
  refine List.ne_nil_of_length_pos ?_
  rw [String.length_utf8EncodeChar]
  exact c.utf8Size_pos

theorem not_lt_of_mem_tail {c : Char} {x y : UInt8} {l : List UInt8}
    (hc : String.utf8EncodeChar c = x :: l) (hy : y ∈ l) : ¬y < 0x80 := by
  intro hlt
  have hone : String.utf8EncodeChar c = [y] := by
    refine utf8EncodeChar_of_mem ?_ hlt
    rw [hc]
    exact List.mem_cons_of_mem _ hy
  rw [hc, List.cons.injEq] at hone
  rw [hone.2] at hy
  cases hy

theorem eq_of_mem_utf8EncodeChar {c d : Char} {x : UInt8} (hx : x ∈ String.utf8EncodeChar c)
    (hlt : x < 0x80) (hd : String.utf8EncodeChar d = [x]) : c = d := by
  have hc := utf8EncodeChar_of_mem hx hlt
  have hsame : utf8 (String.singleton c) = utf8 (String.singleton d) := by
    rw [utf8_singleton, utf8_singleton, hc, hd]
  exact String.singleton_inj.mp (utf8_injective hsame)

/-- A text parts before and after any byte below 128. -/
theorem exists_of_utf8_eq {s : String} {l m : List UInt8} {x : UInt8}
    (h : utf8 s = l ++ x :: m) (hlt : x < 0x80) :
    ∃ a c z, s = a ++ (String.singleton c ++ z) ∧ utf8 a = l ∧ String.utf8EncodeChar c = [x] ∧
      utf8 z = m := by
  obtain ⟨cs, rfl⟩ := s.exists_eq_ofList
  induction cs generalizing l with
  | nil => simp [utf8_eq_flatMap] at h
  | cons c cs ih =>
    have hcons : String.ofList (c :: cs) = String.singleton c ++ String.ofList cs := by
      rw [String.singleton_eq_ofList, ← String.ofList_append, List.singleton_append]
    rw [hcons, utf8_append, utf8_singleton] at h
    rw [hcons]
    rcases List.append_eq_append_iff.mp h with ⟨k, hk, hrest⟩ | ⟨k, hk, hrest⟩
    · obtain ⟨a, d, z, hs, ha, hd, hz⟩ := ih hrest
      refine ⟨String.singleton c ++ a, d, z, ?_, ?_, hd, hz⟩
      · rw [hs, String.append_assoc]
      · rw [utf8_append, utf8_singleton, ha, hk]
    · cases k with
      | nil =>
        obtain ⟨a, d, z, hs, ha, hd, hz⟩ := ih (l := []) (by simpa using hrest.symm)
        refine ⟨String.singleton c ++ a, d, z, ?_, ?_, hd, hz⟩
        · rw [hs, String.append_assoc]
        · rw [utf8_append, utf8_singleton, ha, hk, List.append_nil, List.append_nil]
      | cons y k =>
        rw [List.cons_append, List.cons.injEq] at hrest
        obtain ⟨rfl, hrest⟩ := hrest
        have hc : String.utf8EncodeChar c = [x] :=
          utf8EncodeChar_of_mem (by rw [hk]; simp) hlt
        rw [hc] at hk
        obtain ⟨rfl, rfl⟩ : l = [] ∧ k = [] := by
          cases l with
          | nil => simpa using hk.symm
          | cons z l => simp at hk
        exact ⟨"", c, String.ofList cs, by simp, rfl, hc, hrest.symm⟩

end CustomProps
