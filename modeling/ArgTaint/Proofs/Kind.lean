/-
ArgTaint.Proofs.Kind — kinds are told apart by their names.

The names of the enumeration are distinct. A code outside of it is shown as a
number in brackets after a word with which no other name begins. So a name is
read as the kind that has it, and a text that is no name is refused.
-/
import ArgTaint.Kind
import Mathlib

namespace ArgTaint.Kind

theorem mem_all {k : Kind} (h : k.isMember = true) : k ∈ all := by
  cases k with
  | other code outside => cases h
  | _ => decide

/-- No two kinds share a name. -/
theorem nodup_names : (all.map name).Nodup := by decide

theorem name_other (code : Int) (outside : code < 0 ∨ 28 ≤ code) :
    (other code outside).name = "kind(" ++ toString code ++ ")" := rfl

/-- A name of the enumeration does not look like a code. -/
theorem name_ne_name_other {k : Kind} (h : k.isMember = true) (code : Int)
    (outside : code < 0 ∨ 28 ≤ code) : k.name ≠ (other code outside).name := by
  have member : ∀ j ∈ all, j.name.toList.head? ≠ some 'k' := by decide
  have other : (Kind.other code outside).name.toList.head? = some 'k' := by
    simp [name_other, String.toList_append]
  intro he
  exact member k (mem_all h) (he ▸ other)

/-- A kind is told by its name. -/
theorem name_injective : Function.Injective name := by
  intro j k h
  cases hj : j.isMember with
  | true =>
    cases hk : k.isMember with
    | true => exact List.inj_on_of_nodup_map nodup_names (mem_all hj) (mem_all hk) h
    | false =>
      cases k with
      | other code outside => exact absurd h (name_ne_name_other hj code outside)
      | _ => cases hk
  | false =>
    cases j with
    | other code outside =>
      cases hk : k.isMember with
      | true => exact absurd h.symm (name_ne_name_other hk code outside)
      | false =>
        cases k with
        | other code' outside' =>
          have hcode : code.repr = code'.repr := by
            simpa [name_other, String.append_left_inj, String.append_right_inj] using h
          cases Int.repr_inj.mp hcode
          rfl
        | _ => cases hk
    | _ => cases hj

/-- A kind of the enumeration is found by its name. -/
theorem parse_name {k : Kind} (h : k.isMember = true) :
    parse (Text.ofString k.name) = .ok k := by
  have hfind : all.find? (fun j => Text.ofString j.name = Text.ofString k.name) = some k := by
    have hall : ∀ j ∈ all,
        all.find? (fun i => Text.ofString i.name = Text.ofString j.name) = some j := by
      decide
    exact hall k (mem_all h)
  rw [parse, hfind]

def IsName (text : Text) : Prop := ∃ k ∈ all, text = Text.ofString k.name

/-- The names that are read are those of the enumeration. -/
theorem parse_eq_ok_iff {name : Text} {k : Kind} :
    parse name = .ok k ↔ k ∈ all ∧ name = Text.ofString k.name := by
  constructor
  · intro h
    unfold parse at h
    split at h
    · next found =>
      cases h
      have hname := List.find?_some found
      exact ⟨List.mem_of_find?_eq_some found, (of_decide_eq_true hname).symm⟩
    · cases h
  · rintro ⟨hk, rfl⟩
    have member : ∀ j ∈ all, j.isMember = true := by decide
    exact parse_name (member k hk)

theorem eq_of_parse_eq_error {name : Text} {e : Error} (h : parse name = .error e) :
    e = ⟨name⟩ := by
  unfold parse at h
  split at h
  · cases h
  · cases h
    rfl

/-- A text that is no name is refused, and the refusal names it. -/
theorem parse_eq_error_iff {name : Text} {e : Error} :
    parse name = .error e ↔ ¬ IsName name ∧ e = ⟨name⟩ := by
  constructor
  · intro h
    refine ⟨?_, eq_of_parse_eq_error h⟩
    rintro ⟨k, hk, hname⟩
    rw [parse_eq_ok_iff.mpr ⟨hk, hname⟩] at h
    cases h
  · rintro ⟨hname, rfl⟩
    cases h : parse name with
    | ok k => exact absurd ⟨k, parse_eq_ok_iff.mp h⟩ hname
    | error e => rw [eq_of_parse_eq_error h]

end ArgTaint.Kind
