import Mathlib.Algebra.BigOperators.Group.List.Basic
import Mathlib.Algebra.Ring.Nat
import TrustPath.Proofs.Name.Reread
import TrustPath.Proofs.NameEvaluation

/-!
# Octets do not come back

A value that is not a text is written as its content octets and read as an
encoding, so each time it is written and read it loses an identifier and a
length. A name with such a value is therefore never read back as a name
that is equal to it, if it is read at all
(`DistinguishedName.lost_octets`), and a certificate whose subject is such
a name does not match the string form of its own subject.

What is lost is counted: octets are one more than their number, texts are
nothing. Equal names have the same count, and reading back makes it less.
-/

namespace TrustPath

/-! ## The count -/

def AttributeValue.octetCount : AttributeValue → Nat
  | .text _ => 0
  | .binary octets => octets.length + 1

def Rdn.octetCount (rdn : Rdn) : Nat := (rdn.attributes.map (·.value.octetCount)).sum

namespace DistinguishedName

def octetCount (name : DistinguishedName) : Nat := (name.rdns.map Rdn.octetCount).sum

end DistinguishedName

theorem AttributeValue.Same.octetCount {a b : AttributeValue} (h : a.Same b) :
    a.octetCount = b.octetCount := by
  cases a <;> cases b <;> simp_all [Same, AttributeValue.octetCount]

theorem Rdn.Same.octetCount {a b : Rdn} (h : a.Same b) : a.octetCount = b.octetCount := by
  have hcounts : Multiset.map (fun attr : Attribute => attr.value.octetCount) a.attributes =
      Multiset.map (fun attr : Attribute => attr.value.octetCount) b.attributes := by
    rw [← Multiset.rel_eq, Multiset.rel_map]
    exact h.mono fun x _ y _ hxy => hxy.2.octetCount
  rw [Multiset.map_coe, Multiset.map_coe] at hcounts
  exact (Multiset.coe_eq_coe.mp hcounts).sum_eq

theorem octetCount_of_same {xs ys : List Rdn} (h : List.Forall₂ Rdn.Same xs ys) :
    (xs.map Rdn.octetCount).sum = (ys.map Rdn.octetCount).sum := by
  induction h with
  | nil => rfl
  | cons hxy _ ih =>
      rw [List.map_cons, List.map_cons, List.sum_cons, List.sum_cons, hxy.octetCount, ih]

/-! ## Reading back -/

theorem EncodedValue.octetCount {octets : Octets} {value : AttributeValue}
    (h : EncodedValue octets value) :
    value.octetCount < (AttributeValue.binary octets).octetCount := by
  obtain @⟨identifier, size, content, -⟩ := h
  have hcontent : ∀ tag,
      (AttributeValue.ofContent tag content).octetCount ≤ content.length + 1 := by
    intro tag
    unfold AttributeValue.ofContent
    split <;> simp [AttributeValue.octetCount]
  refine Nat.lt_of_le_of_lt (hcontent _) ?_
  simp only [AttributeValue.octetCount, List.length_cons, List.length_append]
  omega

theorem AttributeValue.octetCount_reread {value other : AttributeValue}
    (h : value.reread = .ok other) :
    other.octetCount ≤ value.octetCount ∧
      (value.isBinary = true → other.octetCount < value.octetCount) := by
  cases value with
  | text s =>
      obtain rfl := Except.ok.inj h
      simp [isBinary]
  | binary octets =>
      have hless := (NameParser.valueOfTlv_eq_ok_iff.mp h).octetCount
      exact ⟨hless.le, fun _ => hless⟩

/-- A count that no part increases is not increased on the whole, and one that some part lessens
is less. -/
theorem sum_map_of_forall₂ {α : Type} {R : α → α → Prop} {count : α → Nat} {xs ys : List α}
    (h : List.Forall₂ R xs ys) (hle : ∀ x y, R x y → count y ≤ count x) :
    (ys.map count).sum ≤ (xs.map count).sum ∧
      ((∃ x ∈ xs, ∀ y, R x y → count y < count x) → (ys.map count).sum < (xs.map count).sum) := by
  induction h with
  | nil => simp
  | @cons x y xs ys hxy _ ih =>
      obtain ⟨hmore, hless⟩ := ih
      have hfirst := hle x y hxy
      simp only [List.map_cons, List.sum_cons]
      refine ⟨by omega, ?_⟩
      rintro ⟨z, hz, hz'⟩
      rcases List.mem_cons.mp hz with rfl | hz
      · have hfirst := hz' y hxy
        omega
      · have hmore := hless ⟨z, hz, hz'⟩
        omega

/-- Some value is not a text. -/
def Rdn.HasOctets (rdn : Rdn) : Prop := ∃ attr ∈ rdn.attributes, attr.value.isBinary = true

theorem Rdn.octetCount_reread {rdn other : Rdn} (h : rdn.reread = .ok other) :
    other.octetCount ≤ rdn.octetCount ∧
      (rdn.HasOctets → other.octetCount < rdn.octetCount) := by
  obtain ⟨attrs, hattrs, rfl⟩ := map_eq_ok.mp h
  have hvalue : ∀ x y : Attribute, x.reread = .ok y →
      y.value.octetCount ≤ x.value.octetCount ∧
        (x.value.isBinary = true → y.value.octetCount < x.value.octetCount) := by
    intro x y hxy
    obtain ⟨value, hvalue, rfl⟩ := map_eq_ok.mp hxy
    exact AttributeValue.octetCount_reread hvalue
  obtain ⟨hle, hlt⟩ :=
    sum_map_of_forall₂ (mapM_eq_ok.mp hattrs) fun x y hxy => (hvalue x y hxy).1
  refine ⟨hle, fun ⟨attr, hattr, hbinary⟩ => hlt ⟨attr, hattr, fun y hy => ?_⟩⟩
  exact (hvalue attr y hy).2 hbinary

namespace DistinguishedName

def HasOctets (name : DistinguishedName) : Prop := ∃ rdn ∈ name.rdns, rdn.HasOctets

theorem octetCount_reread {name other : DistinguishedName} (h : name.reread = .ok other)
    (hoctets : name.HasOctets) : other.octetCount < name.octetCount := by
  obtain ⟨rdns, hrdns, rfl⟩ := map_eq_ok.mp h
  obtain ⟨rdn, hrdn, hbinary⟩ := hoctets
  obtain ⟨-, hlt⟩ :=
    sum_map_of_forall₂ (mapM_eq_ok.mp hrdns) fun x y hxy => (Rdn.octetCount_reread hxy).1
  have hless := hlt ⟨rdn, List.mem_reverse.mpr hrdn, fun y hy =>
    (Rdn.octetCount_reread hy).2 hbinary⟩
  have hsum : ∀ rdns : List Rdn, (rdns.reverse.map Rdn.octetCount).sum =
      (rdns.map Rdn.octetCount).sum := fun rdns =>
    ((List.reverse_perm rdns).map _).sum_eq
  rw [hsum] at hless
  rw [octetCount, octetCount, hsum]
  exact hless

/-- What is read of a name with octets does not equal it. -/
theorem beq_reread {name other : DistinguishedName} (hname : name.IsRead) (hother : other.IsRead)
    (h : name.reread = .ok other) (hoctets : name.HasOctets) : (other == name) = false := by
  refine Bool.eq_false_iff.mpr fun hequal => ?_
  have htexts := (beq_iff_rdnTexts hother.hasPrintedTypes hname.hasPrintedTypes).mp hequal
  have hsame := (rdnTexts_eq_iff hother.hasPrintedTypes hname.hasPrintedTypes).mp htexts
  have hcount := octetCount_of_same hsame
  have hless := octetCount_reread h hoctets
  rw [octetCount, octetCount] at hless
  omega

/-- **Octets do not come back.** Where a name with a value that is not a text is written, what is
read takes the octets of such values for encodings: nothing is read if they are none, and no name
that is read equals the one that was written. So a certificate with this subject is not matched by
the string form of its subject. -/
theorem lost_octets {name : DistinguishedName} (hname : name.IsRead) (hoctets : name.HasOctets)
    (htypes : ∀ rdn ∈ name.rdns, ∀ attr ∈ rdn.attributes, IsDottedOid attr.oid) :
    (∀ other, parse (name.format .rfc2253) = .ok other ↔ name.reread = .ok other) ∧
      (∀ other, parse (name.format .rfc2253) = .ok other → (other == name) = false) ∧
      ∀ (e : NameEvaluator) (c : Certificate) (trusted : TextSet) (max : LogLevel),
        e.handler = .builtin → c.subject = name → trusted.toList = [name.format .rfc2253] →
          Logging.value (e.matchSubject c trusted) max = false := by
  have hdotted : ∀ rdn ∈ name.rdns, rdn.HasDottedTypes := fun rdn hrdn =>
    ⟨(hname.hasPrintedTypes rdn hrdn).1, htypes rdn hrdn⟩
  have hread : ∀ other, parse (name.format .rfc2253) = .ok other ↔ name.reread = .ok other := by
    intro other
    rw [parse_eq_ok_iff, readName_format hdotted (by decide)]
  have hlost : ∀ other, parse (name.format .rfc2253) = .ok other → (other == name) = false :=
    fun other h => beq_reread hname (.parsed h) ((hread other).mp h) hoctets
  refine ⟨hread, hlost, fun e c trusted max hhandler hsubject htrusted => ?_⟩
  rw [NameEvaluator.value_matchSubject, htrusted, hhandler, hsubject, List.any_cons, List.any_nil,
    Bool.or_false]
  refine Bool.eq_false_iff.mpr fun hmatch => ?_
  obtain ⟨other, hother, hequal⟩ := succeeds_iff.mp hmatch
  rw [hlost other hother] at hequal
  cases hequal

/-- An octet string that holds the encoding of a text is written as that
encoding, which is read as the text. So a subject with this name is not
matched by its own string form. -/
theorem sample_lost_octets : ∃ name other, parse "1.2.3.4=#04030c0141" = .ok name ∧
    name.rdns = [⟨[⟨"1.2.3.4", .binary [0x0c, 0x01, 0x41]⟩]⟩] ∧
    parse (name.format .rfc2253) = .ok other ∧ other.rdns = [⟨[⟨"1.2.3.4", .text "A"⟩]⟩] ∧
    (other == name) = false ∧
    ∀ c : Certificate, c.subject = name →
      Logging.value ((⟨false, false, true, [], .builtin⟩ : NameEvaluator).matchSubject c
        (.singleton (name.format .rfc2253))) .off = false := by
  have hparsed : succeeds (parse "1.2.3.4=#04030c0141") (fun name =>
      decide (name.rdns = [⟨[⟨"1.2.3.4", .binary [0x0c, 0x01, 0x41]⟩]⟩]) &&
        succeeds (parse (name.format .rfc2253)) fun other =>
          decide (other.rdns = [⟨[⟨"1.2.3.4", .text "A"⟩]⟩])) = true := by decide +kernel
  simp only [succeeds_iff, Bool.and_eq_true, decide_eq_true_eq] at hparsed
  obtain ⟨name, hname, hrdns, other, hother, hread⟩ := hparsed
  have hoctets : name.HasOctets := by
    simp [HasOctets, Rdn.HasOctets, hrdns, AttributeValue.isBinary]
  have htypes : ∀ rdn ∈ name.rdns, ∀ attr ∈ rdn.attributes, IsDottedOid attr.oid := by
    have hdotted : IsDottedOid "1.2.3.4" := by decide
    simpa [hrdns] using hdotted
  obtain ⟨-, hlost, hunmatched⟩ := lost_octets (.parsed hname) hoctets htypes
  exact ⟨name, other, hname, hrdns, hother, hread, hlost other hother,
    fun c hsubject => hunmatched _ c _ .off rfl hsubject rfl⟩

theorem exists_sampleOctets : ∃ name, parse "1.2.3.4=#0401ff" = .ok name ∧
    name.rdns = [⟨[⟨"1.2.3.4", .binary [0xff]⟩]⟩] := by
  have hparsed : succeeds (parse "1.2.3.4=#0401ff") (fun name => decide (name.rdns =
      [⟨[⟨"1.2.3.4", .binary [0xff]⟩]⟩])) = true := by decide +kernel
  simpa only [succeeds_iff, decide_eq_true_eq] using hparsed

/-- The octet string of one octet `ff` is written as `#ff`, which is not read. -/
theorem sample_unread_octets : ∃ name, parse "1.2.3.4=#0401ff" = .ok name ∧ name.HasOctets ∧
    (∀ rdn ∈ name.rdns, ∀ attr ∈ rdn.attributes, IsDottedOid attr.oid) ∧
    ¬∃ other, parse (name.format .rfc2253) = .ok other ∧ (other == name) = true := by
  obtain ⟨name, hname, hrdns⟩ := exists_sampleOctets
  have hdotted : IsDottedOid "1.2.3.4" := by decide
  have hunread : succeeds (parse (format ⟨[⟨[⟨"1.2.3.4", .binary [0xff]⟩]⟩]⟩ .rfc2253))
      (fun _ => true) = false := by decide +kernel
  obtain ⟨rdns⟩ := name
  obtain rfl : rdns = _ := hrdns
  refine ⟨_, hname, by simp [HasOctets, Rdn.HasOctets, AttributeValue.isBinary],
    by simpa using hdotted, fun ⟨other, hother, _⟩ => ?_⟩
  rw [hother] at hunread
  cases hunread

end DistinguishedName

end TrustPath
