import CustomProps.Proofs.Text.Slices
import CustomProps.Proofs.Value.Layout
/-!
# The names of a value

The names that a value refers to lie one behind the other, in the order of the calls, and each can
be cut out of the value: a dash stands in front of it, and a blank, a comma or a parenthesis behind
it.
-/
namespace CustomProps.Value

namespace NamePart

/-- The name of a part that begins at `o`: where it is and its bytes. -/
def name? (o : Nat) : NamePart → Option (Span × List UInt8)
  | named lead name _ => some (⟨o + lead.length + 2, o + lead.length + 2 + name.length⟩, name)
  | nameless _ => none

variable {s : String} {o k : Nat} {p : NamePart} {r : Span} {n : List UInt8}

theorem between_of_name? (ho : o ≤ k) (hk : k ≤ s.toByteArray.size)
    (h : between s.toByteArray o k = p.bytes) (hr : p.name? o = some (r, n)) :
    between s.toByteArray r.start r.stop = n := by
  cases p with
  | nameless text => cases hr
  | named lead name trail =>
    rw [name?, Option.some.injEq, Prod.mk.injEq] at hr
    obtain ⟨rfl, rfl⟩ := hr
    obtain ⟨hle₁, -, h₁⟩ := between_eq_append hk ho h
    obtain ⟨hle₂, -, h₂⟩ := between_eq_append hk hle₁ h₁
    obtain ⟨-, h₃, -⟩ := between_eq_append hk hle₂ h₂
    exact h₃

theorem within_of_name? (hp : p.Split) (ho : o ≤ k) (hk : k < s.toByteArray.size)
    (h : between s.toByteArray o k = p.bytes) (hx : s.toByteArray[k] < 0x80)
    (hr : p.name? o = some (r, n)) : o ≤ r.start ∧ r.start < r.stop ∧ r.stop ≤ k ∧ r.Within s := by
  have hks := Nat.le_of_lt hk
  cases p with
  | nameless text => cases hr
  | named lead name trail =>
    rw [name?, Option.some.injEq, Prod.mk.injEq] at hr
    obtain ⟨rfl, rfl⟩ := hr
    obtain ⟨-, hname, htrail⟩ := hp
    obtain ⟨hle₁, -, h₁⟩ := between_eq_append hks ho h
    obtain ⟨hle₂, hdashes, h₂⟩ := between_eq_append hks hle₁ h₁
    obtain ⟨hle₃, -, h₃⟩ := between_eq_append hks hle₂ h₂
    have hlen : dashes.length = 2 := rfl
    rw [hlen] at hle₂ hle₃ hdashes h₂ h₃
    have hpos : 0 < name.length := by
      obtain ⟨m, x, rfl, -⟩ := hname
      simp
    refine ⟨by dsimp only; omega, by dsimp only; omega, hle₃, by dsimp only; omega, ?_, ?_⟩
    · obtain ⟨hlt, -, hrest⟩ := between_eq_cons (by omega) (by omega) hdashes
      obtain ⟨hlt', hdash, -⟩ := between_eq_cons (by omega) hlt hrest
      refine (isValid_of_lt (n := o + lead.length + 1) (by omega) ?_).2
      rw [hdash]
      decide
    · cases trail with
      | nil =>
        have hend : o + lead.length + 2 + name.length = k := by
          have hlast := length_between (b := s.toByteArray) (i := o + lead.length + 2 + name.length) hks
          rw [h₃, List.length_nil] at hlast
          omega
        dsimp only
        simp only [hend]
        exact (isValid_of_lt hk hx).1
      | cons y trail =>
        obtain ⟨hlt, hy, -⟩ := between_eq_cons hks hle₃ h₃
        refine (isValid_of_lt (n := o + lead.length + 2 + name.length) (by omega) ?_).1
        rw [hy]
        exact Ascii.lt_of_isSpace y (htrail y (List.mem_cons_self ..))

end NamePart

/-- Ranges between `low` and `high` at which a text has the given names. -/
structure NamesAt (s : String) (low high : Nat) (names : List (Span × List UInt8)) : Prop where
  ascending : Span.Ascending low high (names.map Prod.fst)
  within : ∀ n ∈ names, n.1.Within s
  bytes : ∀ n ∈ names, between s.toByteArray n.1.start n.1.stop = n.2

namespace NamesAt

variable {s : String} {low low' mid high : Nat} {ms ns : List (Span × List UInt8)}

theorem nil (h : low ≤ high) : NamesAt s low high [] := ⟨h, by simp, by simp⟩

theorem of_le (h : NamesAt s low high ns) (hle : low' ≤ low) : NamesAt s low' high ns :=
  ⟨h.ascending.of_le hle, h.within, h.bytes⟩

theorem append (h : NamesAt s low mid ms) (h' : NamesAt s mid high ns) :
    NamesAt s low high (ms ++ ns) where
  ascending := by
    rw [List.map_append]
    exact h.ascending.append h'.ascending
  within := by
    intro n hn
    rcases List.mem_append.mp hn with hn | hn
    · exact h.within n hn
    · exact h'.within n hn
  bytes := by
    intro n hn
    rcases List.mem_append.mp hn with hn | hn
    · exact h.bytes n hn
    · exact h'.bytes n hn

theorem of_part {o k : Nat} {p : NamePart} (hp : p.Split) (ho : o ≤ k) (hk : k < s.toByteArray.size)
    (h : between s.toByteArray o k = p.bytes) (hx : s.toByteArray[k] < 0x80) (hlow : low ≤ o)
    (hhigh : k ≤ high) : NamesAt s low high (p.name? o).toList := by
  cases hr : p.name? o with
  | none => exact nil (by omega)
  | some n =>
    obtain ⟨h₁, h₂, h₃, hw⟩ := NamePart.within_of_name? hp ho hk h hx hr
    refine ⟨⟨by omega, h₂, Nat.le_trans h₃ hhigh⟩, ?_, ?_⟩
    · intro m hm
      obtain rfl := List.mem_singleton.mp hm
      exact hw
    · intro m hm
      obtain rfl := List.mem_singleton.mp hm
      exact NamePart.between_of_name? ho (Nat.le_of_lt hk) h hr

end NamesAt

namespace Layout

/-- The names of a layout that begins at `o`, the name of a call before those of its fallback. -/
def names (o : Nat) : Layout → List (Span × List UInt8)
  | plain _ => []
  | cut .. => []
  | call gap _ part after =>
    let body := o + gap.length + 4
    (part.name? body).toList ++ after.names (body + part.bytes.length + 1)
  | callWith gap _ part fallback after =>
    let body := o + gap.length + 4
    let inner := body + part.bytes.length + 1
    (part.name? body).toList ++
      (fallback.names inner ++ after.names (inner + fallback.bytes.length + 1))

theorem filterMap_name_calls (t : Layout) (o : Nat) :
    (t.calls o).filterMap Call.name = (t.names o).map Prod.fst := by
  have hpart : ∀ (p : NamePart) (body : Nat) (span : Span) (fallback : Option Span) (cs : List Call),
      ((⟨span, p.span? body, fallback⟩ :: cs : List Call)).filterMap Call.name =
        (p.name? body).toList.map Prod.fst ++ cs.filterMap Call.name := by
    intro p body span fallback cs
    cases p with
    | named lead name trail => rfl
    | nameless text => rfl
  induction t generalizing o with
  | plain text => rfl
  | cut gap word rest => rfl
  | call gap word part after iha =>
    rw [calls, names, hpart, iha, List.map_append]
  | callWith gap word part fallback after ihf iha =>
    rw [calls, names, hpart, List.filterMap_append, ihf, iha, List.map_append, List.map_append]

/-- The names of a text are where its layout has them. -/
theorem namesAt {s : String} {t : Layout} (ht : t.Sound) {i stop : Nat} (hi : i ≤ stop)
    (hs : stop ≤ s.toByteArray.size) (h : between s.toByteArray i stop = t.bytes) :
    NamesAt s i stop (t.names i) := by
  induction t generalizing i stop with
  | plain text => exact NamesAt.nil hi
  | cut gap word rest => exact NamesAt.nil hi
  | call gap word part after iha =>
    obtain ⟨-, hword, hpart, hafter⟩ := ht
    obtain ⟨hbody, hrest, hlt, hclose⟩ := between_head hs hi hword h
    refine NamesAt.append (NamesAt.of_part hpart.split (Nat.le_add_right _ _) (by omega) hbody ?_
      (by omega) (Nat.le_succ _)) (iha hafter hlt hs hrest)
    rw [hclose]
    decide
  | callWith gap word part fallback after ihf iha =>
    obtain ⟨-, hword, hpart, ⟨hfallback, -⟩, hafter⟩ := ht
    obtain ⟨hbody, hfrom, hlt₃, hcomma⟩ := between_head hs hi hword h
    obtain ⟨hle₅, hin, h₅⟩ := between_eq_append hs hlt₃ hfrom
    obtain ⟨hlt₅, -, hrest⟩ := between_eq_cons hs hle₅ h₅
    have hfirst : NamesAt s i (i + gap.length + 4 + part.bytes.length + 1)
        (part.name? (i + gap.length + 4)).toList := by
      refine NamesAt.of_part hpart.split (Nat.le_add_right _ _) (by omega) hbody ?_ (by omega)
        (Nat.le_succ _)
      rw [hcomma]
      decide
    have hinner := ihf hfallback (Nat.le_add_right _ _) (by omega) hin
    have hlater := (iha hafter hlt₅ hs hrest).of_le (Nat.le_succ _)
    exact hfirst.append (hinner.append hlater)

end Layout

end CustomProps.Value
