import TrustPath.Name.Parser

/-!
# How relative names are read

The reader of relative names as a relation (`ReadsRdns`), one rule for each
way in which it goes on after an attribute. It is the reader exactly
(`readRdns_eq_ok_iff`), and what holds of every reading, or makes a
reading, goes by induction on its rules.
-/

namespace TrustPath

namespace NameParser

/-- Relative names as they are read from a text after the attributes in `read`. -/
inductive ReadsRdns : List Attribute → List Char → List Rdn → Prop
  | last {read : List Attribute} {cs : List Char} {attr : Attribute}
      (hattr : readAttribute cs = .ok (attr, [])) : ReadsRdns read cs [⟨read ++ [attr]⟩]
  | joined {read : List Attribute} {cs rest : List Char} {attr : Attribute} {rdns : List Rdn}
      (hattr : readAttribute cs = .ok (attr, '+' :: rest))
      (hrest : ReadsRdns (read ++ [attr]) rest rdns) : ReadsRdns read cs rdns
  | next {read : List Attribute} {cs rest : List Char} {attr : Attribute} {rdns : List Rdn}
      {separator : Char} (hattr : readAttribute cs = .ok (attr, separator :: rest))
      (hseparator : separator = ',' ∨ separator = ';') (hrest : ReadsRdns [] rest rdns) :
      ReadsRdns read cs (⟨read ++ [attr]⟩ :: rdns)

/-- No attribute is read where nothing but blanks is left. -/
theorem skipBlanks_of_readAttribute {cs rest : List Char} {attr : Attribute}
    (h : readAttribute cs = .ok (attr, rest)) : (skipBlanks cs).isEmpty = false := by
  refine Bool.eq_false_iff.mpr fun hempty => ?_
  rw [readAttribute, List.isEmpty_iff.mp hempty] at h
  cases h

theorem ReadsRdns.skipBlanks {read : List Attribute} {cs : List Char} {rdns : List Rdn}
    (h : ReadsRdns read cs rdns) : (skipBlanks cs).isEmpty = false := by
  cases h with
  | last hattr => exact skipBlanks_of_readAttribute hattr
  | joined hattr _ => exact skipBlanks_of_readAttribute hattr
  | next hattr _ _ => exact skipBlanks_of_readAttribute hattr

/-- What the reader does with what an attribute leaves. -/
theorem readRdns_of_readAttribute {read : List Attribute} {cs rest : List Char} {attr : Attribute}
    (hattr : readAttribute cs = .ok (attr, rest)) :
    readRdns read cs = match rest with
      | [] => .ok [⟨read ++ [attr]⟩]
      | c :: rest =>
        if c = '+' then readRdns (read ++ [attr]) rest
        else if c = ',' ∨ c = ';' then
          if (skipBlanks rest).isEmpty then .error .trailingSeparator
          else match readRdns [] rest with
            | .error e => .error e
            | .ok rdns => .ok (⟨read ++ [attr]⟩ :: rdns)
        else .error (.unexpected c) := by
  rw [readRdns]
  split
  · next hfault => cases hattr.symm.trans hfault
  · next heq =>
    obtain ⟨rfl, rfl⟩ := Prod.mk.inj (Except.ok.inj (hattr.symm.trans heq))
    cases rest <;> rfl

theorem ReadsRdns.readRdns_eq {read : List Attribute} {cs : List Char} {rdns : List Rdn}
    (h : ReadsRdns read cs rdns) : readRdns read cs = .ok rdns := by
  induction h with
  | last hattr => rw [readRdns_of_readAttribute hattr]
  | joined hattr _ ih =>
      rw [readRdns_of_readAttribute hattr]
      dsimp only
      rw [if_pos rfl, ih]
  | @next _ _ _ _ _ separator hattr hseparator hrest ih =>
      have hplus : separator ≠ '+' := by
        rcases hseparator with rfl | rfl <;> decide
      rw [readRdns_of_readAttribute hattr]
      dsimp only
      rw [if_neg hplus, if_pos hseparator, hrest.skipBlanks, if_neg Bool.false_ne_true, ih]

theorem readsRdns_of_readRdns {read : List Attribute} {cs : List Char} {rdns : List Rdn}
    (h : readRdns read cs = .ok rdns) : ReadsRdns read cs rdns := by
  induction hlength : cs.length using Nat.strongRecOn generalizing read cs rdns with
  | ind n ih =>
      cases hattr : readAttribute cs with
      | error e =>
          rw [readRdns] at h
          split at h <;> simp_all
      | ok result =>
          obtain ⟨attr, rest⟩ := result
          have hshort := length_of_readAttribute hattr
          rw [readRdns_of_readAttribute hattr] at h
          cases rest with
          | nil =>
              obtain rfl := Except.ok.inj h
              exact .last hattr
          | cons c rest =>
              rw [List.length_cons] at hshort
              dsimp only at h
              split at h
              · next hplus =>
                subst hplus
                exact .joined hattr (ih rest.length (by omega) h rfl)
              · split at h
                · next hseparator =>
                  split at h
                  · cases h
                  · split at h
                    · cases h
                    · next more hmore =>
                      obtain rfl := Except.ok.inj h
                      exact .next hattr hseparator (ih rest.length (by omega) hmore rfl)
                · cases h

theorem readRdns_eq_ok_iff {read : List Attribute} {cs : List Char} {rdns : List Rdn} :
    readRdns read cs = .ok rdns ↔ ReadsRdns read cs rdns :=
  ⟨readsRdns_of_readRdns, ReadsRdns.readRdns_eq⟩

end NameParser

theorem DistinguishedName.parse_eq_ok_iff {s : String} {name : DistinguishedName} :
    parse s = .ok name ↔ NameParser.readName s.toList = .ok name := by
  unfold parse
  cases h : NameParser.readName s.toList <;> simp

end TrustPath
