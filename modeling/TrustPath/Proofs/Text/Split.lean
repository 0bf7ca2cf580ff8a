import Mathlib.Data.List.Infix
import TrustPath.Text.Split

/-!
# Texts put together and cut again

Fields that do not hold the separator are got back from the text that
joins them (`Text.fields_intercalate`). The fields of a text are the last
fields of another exactly if the other ends in it, cut at a separator
(`Text.fields_suffix_iff`). What follows a given start is got back when
that start is taken off (`Text.stripStart?_append`).
-/

namespace TrustPath

theorem mem_intercalate {c : Char} {joiner : List Char} {parts : List (List Char)}
    (h : c ∈ joiner.intercalate parts) : c ∈ joiner ∨ ∃ part ∈ parts, c ∈ part := by
  induction parts with
  | nil => simp at h
  | cons part parts ih =>
      cases parts with
      | nil => exact .inr ⟨part, by simp, by simpa using h⟩
      | cons next more =>
          rw [List.intercalate_cons_cons, List.append_assoc] at h
          rcases List.mem_append.mp h with hpart | h
          · exact .inr ⟨part, by simp, hpart⟩
          · rcases List.mem_append.mp h with hjoiner | h
            · exact .inl hjoiner
            · rcases ih h with hjoiner | ⟨p, hp, hc⟩
              · exact .inl hjoiner
              · exact .inr ⟨p, List.mem_cons_of_mem _ hp, hc⟩

namespace Text

theorem fields_of_not_mem {separator : Char} {part : List Char} (h : separator ∉ part) :
    fields separator part = [part] := by
  induction part with
  | nil => rfl
  | cons c part ih =>
      rw [List.mem_cons, not_or] at h
      rw [fields, if_neg (Ne.symm h.1), ih h.2]

theorem fields_ne_nil (separator : Char) (cs : List Char) : fields separator cs ≠ [] := by
  fun_cases fields separator cs <;> simp

theorem fields_append_cons {separator : Char} (front rest : List Char) :
    fields separator (front ++ separator :: rest)
      = fields separator front ++ fields separator rest := by
  induction front with
  | nil => simp [fields]
  | cons c front ih =>
      rw [List.cons_append, fields, fields, ih]
      split
      · rfl
      · cases hfront : fields separator front with
        | nil => exact absurd hfront (fields_ne_nil separator front)
        | cons field more => rfl

theorem fields_append {separator : Char} {part : List Char} (h : separator ∉ part)
    (rest : List Char) :
    fields separator (part ++ separator :: rest) = part :: fields separator rest := by
  rw [fields_append_cons, fields_of_not_mem h]
  rfl

theorem fields_intercalate {separator : Char} {parts : List (List Char)} (hne : parts ≠ [])
    (h : ∀ part ∈ parts, separator ∉ part) :
    fields separator ([separator].intercalate parts) = parts := by
  induction parts with
  | nil => exact absurd rfl hne
  | cons part parts ih =>
      obtain ⟨hpart, hparts⟩ := List.forall_mem_cons.mp h
      cases parts with
      | nil => simpa using fields_of_not_mem hpart
      | cons next more =>
          rw [List.intercalate_cons_cons, List.append_assoc, List.singleton_append,
            fields_append hpart, ih (List.cons_ne_nil _ _) hparts]

/-! ## The last fields -/

theorem fields_inj {separator : Char} {cs ds : List Char}
    (h : fields separator cs = fields separator ds) : cs = ds := by
  rw [← intercalate_fields separator cs, h, intercalate_fields]

theorem intercalate_append_of_ne_nil {separator : Char} {front back : List (List Char)}
    (hfront : front ≠ []) (hback : back ≠ []) :
    [separator].intercalate (front ++ back)
      = [separator].intercalate front ++ separator :: [separator].intercalate back := by
  induction front with
  | nil => exact absurd rfl hfront
  | cons part front ih =>
      cases front with
      | nil => simp [List.intercalate_cons_of_ne_nil hback]
      | cons next more =>
          rw [List.cons_append, List.cons_append, List.intercalate_cons_cons, ← List.cons_append,
            ih (List.cons_ne_nil _ _), List.intercalate_cons_cons]
          simp

/-- The fields of a text are the last ones of another, and not all of
them, exactly if the other ends in a separator and the text. -/
theorem fields_proper_suffix_iff {separator : Char} {part whole : List Char} :
    fields separator part <:+ fields separator whole ∧ fields separator part ≠ fields separator whole
      ↔ separator :: part <:+ whole := by
  constructor
  · rintro ⟨⟨front, hfront⟩, hproper⟩
    have hsome : front ≠ [] := by
      rintro rfl
      exact hproper hfront
    have hwhole := intercalate_fields separator whole
    rw [← hfront, intercalate_append_of_ne_nil hsome (fields_ne_nil _ _), intercalate_fields] at hwhole
    exact ⟨_, hwhole⟩
  · rintro ⟨front, rfl⟩
    rw [fields_append_cons]
    refine ⟨List.suffix_append _ _, fun hsame => fields_ne_nil separator front ?_⟩
    exact List.self_eq_append_left.mp hsame

theorem fields_suffix_iff {separator : Char} {part whole : List Char} :
    fields separator part <:+ fields separator whole ↔ whole = part ∨ separator :: part <:+ whole := by
  rw [← fields_proper_suffix_iff]
  constructor
  · intro hsuffix
    by_cases hsame : fields separator part = fields separator whole
    · exact .inl (fields_inj hsame).symm
    · exact .inr ⟨hsuffix, hsame⟩
  · rintro (rfl | ⟨hsuffix, -⟩)
    · exact List.suffix_refl _
    · exact hsuffix

/-! ## A given start -/

theorem stripStart?_append (start rest : List Char) :
    stripStart? start (start ++ rest) = some rest := by
  rw [stripStart?, if_pos (List.isPrefixOf_iff_prefix.mpr (List.prefix_append start rest)),
    List.drop_left]

theorem stripStart?_eq_none {start cs : List Char} (h : ¬ start <+: cs) :
    stripStart? start cs = none :=
  if_neg (mt List.isPrefixOf_iff_prefix.mp h)

end Text

end TrustPath
