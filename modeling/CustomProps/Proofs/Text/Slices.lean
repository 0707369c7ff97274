import CustomProps.Proofs.Text.Utf8
import CustomProps.Proofs.Value.Nesting
import CustomProps.Text.Span
/-!
# Cutting pieces out of a text

A range cuts a piece out of a text exactly when the text is something in front of the piece, the
piece, and something behind it. Everything said of cuts follows from that.
-/
namespace CustomProps

theorem isValid_iff {s : String} {n : Nat} :
    String.Pos.Raw.IsValid s ⟨n⟩ ↔ ∃ a z, s = a ++ z ∧ n = a.utf8ByteSize := by
  rw [String.Pos.Raw.isValid_iff_exists_append]
  simp only [String.Pos.Raw.ext_iff, String.byteIdx_rawEndPos]

namespace Span

theorem extract_of_append {s a z : String} (h : s = a ++ z) :
    s.toByteArray.extract 0 a.utf8ByteSize = a.toByteArray := by
  rw [h, String.toByteArray_append]
  exact ByteArray.extract_append_eq_left String.size_toByteArray.symm

/-- What a range cuts out, the text in front of it and the text behind it. -/
theorem Within.exists_slice? {r : Span} {s : String} (h : r.Within s) : ∃ t, r.slice? s = some t :=
  Option.isSome_iff_exists.mp (slice?_isSome_iff.mpr h)

theorem slice?_eq_some_iff {r : Span} {s t : String} :
    r.slice? s = some t ↔ ∃ a z, s = a ++ (t ++ z) ∧ r.start = a.utf8ByteSize ∧
      r.stop = a.utf8ByteSize + t.utf8ByteSize := by
  constructor
  · intro h
    obtain ⟨hle, hstart, hstop⟩ := slice?_isSome_iff.mp (Option.isSome_of_eq_some h)
    obtain ⟨a, y, hs, ha⟩ := isValid_iff.mp hstart
    obtain ⟨b, z, hs', hb⟩ := isValid_iff.mp hstop
    have hbt : b = a ++ t := by
      refine String.toByteArray_inj.mp ?_
      rw [String.toByteArray_append, toByteArray_of_slice? h, ← extract_of_append hs,
        ← extract_of_append hs', ← ha, ← hb,
        ← ByteArray.extract_eq_extract_append_extract r.start (Nat.zero_le _) hle]
    refine ⟨a, z, ?_, ha, ?_⟩
    · rw [hs', hbt, String.append_assoc]
    · rw [hb, hbt, String.utf8ByteSize_append]
  · rintro ⟨a, z, rfl, hstart, hstop⟩
    have hw : r.Within (a ++ (t ++ z)) := by
      refine ⟨by omega, isValid_iff.mpr ⟨a, t ++ z, rfl, hstart⟩,
        isValid_iff.mpr ⟨a ++ t, z, String.append_assoc.symm, ?_⟩⟩
      rw [hstop, String.utf8ByteSize_append]
    obtain ⟨u, hu⟩ := hw.exists_slice?
    rw [hu, Option.some.injEq]
    refine String.toByteArray_inj.mp ?_
    have hmid : (a.toByteArray ++ (t.toByteArray ++ z.toByteArray)).extract
        (a.utf8ByteSize + 0) (a.utf8ByteSize + t.utf8ByteSize) = t.toByteArray := by
      rw [ByteArray.extract_append_size_add' String.size_toByteArray.symm]
      exact ByteArray.extract_append_eq_left String.size_toByteArray.symm
    rw [toByteArray_of_slice? hu, String.toByteArray_append, String.toByteArray_append, hstart,
      hstop]
    exact hmid

theorem slice_of_slice? {r : Span} {s t : String} (h : r.slice? s = some t) : r.slice s = t := by
  rw [slice, h, Option.getD_some]

theorem utf8_of_slice? {r : Span} {s t : String} (h : r.slice? s = some t) :
    utf8 t = Value.between s.toByteArray r.start r.stop := by
  rw [utf8, toByteArray_of_slice? h, Value.between]

theorem stop_of_slice? {r : Span} {s t : String} (h : r.slice? s = some t) :
    r.stop = r.start + t.utf8ByteSize := by
  obtain ⟨a, z, -, hstart, hstop⟩ := slice?_eq_some_iff.mp h
  rw [hstop, hstart]

theorem slice?_append {p q r : Nat} {s x y : String} (hx : slice? ⟨p, q⟩ s = some x)
    (hy : slice? ⟨q, r⟩ s = some y) : slice? ⟨p, r⟩ s = some (x ++ y) := by
  obtain ⟨a, z, hs, hp, hq⟩ := slice?_eq_some_iff.mp hx
  obtain ⟨b, w, hs', hq', hr⟩ := slice?_eq_some_iff.mp hy
  dsimp only at hp hq hq' hr
  have hcut : (a ++ x) ++ z = b ++ (y ++ w) := by
    rw [String.append_assoc, ← hs, hs']
  obtain ⟨rfl, hz⟩ := append_inj_of_utf8ByteSize hcut (by rw [String.utf8ByteSize_append]; omega)
  rw [String.utf8ByteSize_append] at hr
  refine slice?_eq_some_iff.mpr ⟨a, w, ?_, hp, ?_⟩
  · rw [hs', String.append_assoc, String.append_assoc]
  · rw [hr, String.utf8ByteSize_append]
    exact Nat.add_assoc _ _ _

theorem slice?_append_left {p q : Nat} {s t : String} (a : String) (h : slice? ⟨p, q⟩ s = some t) :
    slice? ⟨a.utf8ByteSize + p, a.utf8ByteSize + q⟩ (a ++ s) = some t := by
  obtain ⟨b, z, rfl, hp, hq⟩ := slice?_eq_some_iff.mp h
  dsimp only at hp hq
  refine slice?_eq_some_iff.mpr ⟨a ++ b, z, String.append_assoc.symm, ?_, ?_⟩
  · rw [String.utf8ByteSize_append, hp]
  · rw [String.utf8ByteSize_append, hq]
    exact (Nat.add_assoc _ _ _).symm

theorem exists_slice? {p q : Nat} {s : String} (hpq : p ≤ q) (hp : String.Pos.Raw.IsValid s ⟨p⟩)
    (hq : String.Pos.Raw.IsValid s ⟨q⟩) : ∃ t, slice? ⟨p, q⟩ s = some t :=
  Within.exists_slice? ⟨hpq, hp, hq⟩

theorem eq_of_slice?_all {s t : String} (h : slice? ⟨0, s.utf8ByteSize⟩ s = some t) : t = s := by
  obtain ⟨a, z, hs, hp, hq⟩ := slice?_eq_some_iff.mp h
  have hsize := congrArg String.utf8ByteSize hs
  simp only [String.utf8ByteSize_append] at hsize hp hq
  have ha : a = "" := String.utf8ByteSize_eq_zero_iff.mp hp.symm
  have hz : z = "" := String.utf8ByteSize_eq_zero_iff.mp (by omega)
  rw [hs, ha, hz, String.append_empty, String.empty_append]

/-! ### Ranges one behind the other -/

/-- Ranges that are not empty and lie one behind the other between `low` and `high`. -/
def Ascending (low high : Nat) : List Span → Prop
  | [] => low ≤ high
  | r :: rest => low ≤ r.start ∧ r.start < r.stop ∧ Ascending r.stop high rest

theorem Ascending.le {low high : Nat} {rs : List Span} (h : Ascending low high rs) :
    low ≤ high := by
  induction rs generalizing low with
  | nil => exact h
  | cons r rs ih =>
    obtain ⟨hlow, hlt, hrest⟩ := h
    have hle := ih hrest
    omega

theorem Ascending.of_le {low low' high : Nat} {rs : List Span} (h : Ascending low high rs)
    (hle : low' ≤ low) : Ascending low' high rs := by
  cases rs with
  | nil => exact Nat.le_trans hle h
  | cons r rs => exact ⟨Nat.le_trans hle h.1, h.2⟩

theorem Ascending.append {low mid high : Nat} {rs ss : List Span} (hr : Ascending low mid rs)
    (hs : Ascending mid high ss) : Ascending low high (rs ++ ss) := by
  induction rs generalizing low with
  | nil => exact hs.of_le hr
  | cons r rs ih => exact ⟨hr.1, hr.2.1, ih hr.2.2⟩

theorem Ascending.mem {low high : Nat} {rs : List Span} (h : Ascending low high rs) {r : Span}
    (hr : r ∈ rs) : low ≤ r.start ∧ r.start < r.stop ∧ r.stop ≤ high := by
  induction rs generalizing low with
  | nil => cases hr
  | cons q rs ih =>
    obtain ⟨hlow, hlt, hrest⟩ := h
    have hle := hrest.le
    rcases List.mem_cons.mp hr with rfl | hmem
    · exact ⟨hlow, hlt, hle⟩
    · obtain ⟨h₁, h₂, h₃⟩ := ih hrest hmem
      exact ⟨by omega, h₂, h₃⟩

theorem Ascending.pairwise {low high : Nat} {rs : List Span} (h : Ascending low high rs) :
    rs.Pairwise fun q r => q.start < r.start ∧ q.stop ≤ r.start := by
  induction rs generalizing low with
  | nil => exact List.Pairwise.nil
  | cons r rs ih =>
    obtain ⟨hlow, hlt, hrest⟩ := h
    refine List.Pairwise.cons (fun q hq => ?_) (ih hrest)
    have hstart := (hrest.mem hq).1
    omega

end Span

/-- A text may be cut before and after a byte below 128. -/
theorem isValid_of_lt {s : String} {n : Nat} (hn : n < s.toByteArray.size)
    (hx : s.toByteArray[n] < 0x80) :
    String.Pos.Raw.IsValid s ⟨n⟩ ∧ String.Pos.Raw.IsValid s ⟨n + 1⟩ := by
  have hsplit : utf8 s = Value.between s.toByteArray 0 n ++
      s.toByteArray[n] :: Value.between s.toByteArray (n + 1) s.toByteArray.size := by
    rw [← Value.between_of_lt hn (Nat.le_refl _), Value.between_append (Nat.zero_le n) (Nat.le_of_lt hn),
      Value.between_all]
    rfl
  obtain ⟨a, c, z, rfl, ha, hc, -⟩ := exists_of_utf8_eq hsplit hx
  have hlen : n = a.utf8ByteSize := by
    rw [← length_utf8, ha, Value.length_between (Nat.le_of_lt hn), Nat.sub_zero]
  refine ⟨isValid_iff.mpr ⟨a, _, rfl, hlen⟩, isValid_iff.mpr ⟨a ++ String.singleton c, z, ?_, ?_⟩⟩
  · rw [String.append_assoc]
  · rw [String.utf8ByteSize_append, ← length_utf8 (String.singleton c), utf8_singleton, hc, ← hlen]
    rfl

end CustomProps
