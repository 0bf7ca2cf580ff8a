import TrustPath.Proofs.NameConstraint.Subtree
import TrustPath.Proofs.Path.Acceptable

/-!
# Exactness of name constraints

A certificate keeps constraints (`NameConstraints.Kept`) if none of its
names lies in an excluded subtree and every name of a kind of which
something is permitted lies in a permitted one. The check of a
certificate finds a violation exactly if it does not.

The check takes the names apart kind by kind, so each kind has its own
list of names, its own list of bases and its own rule. What the five have
in common is that the rule decides whether a name of the kind lies in the
subtree of a base of the kind (`Decides`); the searches over the lists
are treated once for all of them.

Along a path, every authority imposes its constraints on all that is
below. `accumulated` collects them from the top, and the loops over
authorities and over what is below each of them come to this: every
certificate that is the target or not self-issued keeps what has been
collected above it (`names_exact`).
-/

namespace TrustPath

open NameConstraint

namespace Certificate

/-- The alternative names. If they cannot be read, there are none. -/
def alternativeNames (c : Certificate) : List GeneralName :=
  match c.subjectAltName with
  | .ok (some names) => names
  | _ => []

/-- The names that constraints can concern: the subject unless it is
empty, the email addresses in it and the alternative names. -/
def constrainedNames (c : Certificate) : List GeneralName :=
  (if c.subject.isEmpty then [] else [.directory c.subject])
    ++ (c.subject.valuesOf emailAddressOid).map .rfc822 ++ c.alternativeNames

theorem filterMap_constrainedNames {α : Type} (value? : GeneralName → Option α) (c : Certificate) :
    c.constrainedNames.filterMap value?
      = (if c.subject.isEmpty then [] else (value? (.directory c.subject)).toList)
        ++ (c.subject.valuesOf emailAddressOid).filterMap (fun address => value? (.rfc822 address))
        ++ c.alternativeNames.filterMap value? := by
  rw [constrainedNames, List.filterMap_append, List.filterMap_append, List.filterMap_map]
  congr 2
  split
  · rfl
  · cases hvalue : value? (.directory c.subject) <;> simp [hvalue]

end Certificate

namespace NameConstraint

/-- The kinds of names that constraints can limit. -/
def constrainedKinds : List AltNameType := [.dns, .rfc822, .uri, .directoryName, .ipAddress]

/-- None of the names lies in the subtree of a base. -/
def Clear (bases names : List GeneralName) : Prop :=
  ∀ name ∈ names, ∀ base ∈ bases, ¬ InSubtree name base

/-- Every name of a kind lies in the subtree of a base, if there are bases
of that kind. -/
def Covers (bases names : List GeneralName) (kind : AltNameType) : Prop :=
  (∃ base ∈ bases, base.type = kind) →
    ∀ name ∈ names, name.type = kind → ∃ base ∈ bases, InSubtree name base

end NameConstraint

/-- Names keep constraints: they avoid what is excluded and are covered
by what is permitted. -/
structure NameConstraints.Kept (constraints : NameConstraints) (names : List GeneralName) : Prop where
  excluded : Clear (constraints.excluded.getD []) names
  permitted : ∀ kind ∈ constrainedKinds, Covers (constraints.permitted.getD []) names kind

namespace NameConstraint

/-! ## One kind -/

/-- A rule decides for one kind whether a name lies in the subtree of a
base, from what is compared of the two. -/
structure Decides {α β : Type} (kind : AltNameType) (value? : GeneralName → Option α)
    (base? : GeneralName → Option β) (within : α → β → Bool) : Prop where
  value_iff : ∀ {name}, (∃ a, value? name = some a) ↔ name.type = kind
  base_iff : ∀ {base}, (∃ b, base? base = some b) ↔ base.type = kind
  within_iff : ∀ {name base a b}, value? name = some a → base? base = some b →
    (within a b = true ↔ InSubtree name base)

namespace Decides

variable {α β : Type} {kind : AltNameType} {value? : GeneralName → Option α}
  {base? : GeneralName → Option β} {within : α → β → Bool} {names bases : List GeneralName}

theorem find?_eq_none (h : Decides kind value? base? within) {base : GeneralName} {b : β}
    (hbase : base? base = some b) :
    (names.filterMap value?).find? (within · b) = none
      ↔ ∀ name ∈ names, ¬ InSubtree name base := by
  rw [List.find?_eq_none]
  constructor
  · intro hnone name hname hin
    obtain ⟨a, ha⟩ := h.value_iff.mpr (hin.type_eq.trans (h.base_iff.mp ⟨b, hbase⟩))
    exact hnone a (List.mem_filterMap.mpr ⟨name, hname, ha⟩) ((h.within_iff ha hbase).mpr hin)
  · intro hclear a ha hwithin
    obtain ⟨name, hname, ha⟩ := List.mem_filterMap.mp ha
    exact hclear name hname ((h.within_iff ha hbase).mp hwithin)

theorem any_iff (h : Decides kind value? base? within) {name : GeneralName} {a : α}
    (ha : value? name = some a) :
    (bases.filterMap base?).any (within a) = true ↔ ∃ base ∈ bases, InSubtree name base := by
  rw [List.any_eq_true]
  constructor
  · rintro ⟨b, hb, hwithin⟩
    obtain ⟨base, hbase, hb⟩ := List.mem_filterMap.mp hb
    exact ⟨base, hbase, (h.within_iff ha hb).mp hwithin⟩
  · rintro ⟨base, hbase, hin⟩
    obtain ⟨b, hb⟩ := h.base_iff.mpr (hin.type_eq.symm.trans (h.value_iff.mp ⟨a, ha⟩))
    exact ⟨b, List.mem_filterMap.mpr ⟨base, hbase, hb⟩, (h.within_iff ha hb).mpr hin⟩

theorem firstOutside?_eq_none (h : Decides kind value? base? within) :
    firstOutside? within (names.filterMap value?) (bases.filterMap base?) = none
      ↔ Covers bases names kind := by
  have hsome : (bases.filterMap base?).isEmpty = true ↔ ¬ ∃ base ∈ bases, base.type = kind := by
    rw [List.isEmpty_iff, List.filterMap_eq_nil_iff]
    simp only [not_exists, not_and, ← h.base_iff, Option.eq_none_iff_forall_ne_some]
  unfold firstOutside? Covers
  split
  · next hempty => exact iff_of_true rfl fun hbases => absurd hbases (hsome.mp hempty)
  · next hbases =>
    rw [hsome, not_not] at hbases
    rw [List.find?_eq_none, forall_prop_of_true hbases]
    simp only [Bool.not_eq_true', Bool.not_eq_false]
    constructor
    · intro hall name hname hkind
      obtain ⟨a, ha⟩ := h.value_iff.mpr hkind
      exact (h.any_iff ha).mp (hall a (List.mem_filterMap.mpr ⟨name, hname, ha⟩))
    · intro hall a ha
      obtain ⟨name, hname, ha⟩ := List.mem_filterMap.mp ha
      exact (h.any_iff ha).mpr (hall name hname (h.value_iff.mp ⟨a, ha⟩))

end Decides

/-! ## The five kinds -/

/-- The host of a name that is a URI, if the URI has one. -/
def uriHostOf? (name : GeneralName) : Option (Option String) := name.uri?.map uriHost?

/-- The base for URIs, in lowercase. -/
def uriBase? (base : GeneralName) : Option String := base.uri?.map Text.lowerAscii

theorem decides_dns : Decides .dns GeneralName.dns? GeneralName.dns? dnsMatches where
  value_iff := by intro name; cases name <;> simp [GeneralName.dns?, GeneralName.type]
  base_iff := by intro base; cases base <;> simp [GeneralName.dns?, GeneralName.type]
  within_iff := by
    intro name base a b ha hb
    cases name <;> cases ha
    cases base <;> cases hb
    exact inSubtree_dns_iff.symm

theorem decides_rfc822 :
    Decides .rfc822 GeneralName.email? GeneralName.email? emailMatches where
  value_iff := by intro name; cases name <;> simp [GeneralName.email?, GeneralName.type]
  base_iff := by intro base; cases base <;> simp [GeneralName.email?, GeneralName.type]
  within_iff := by
    intro name base a b ha hb
    cases name <;> cases ha
    cases base <;> cases hb
    exact inSubtree_rfc822_iff.symm

theorem decides_uri : Decides .uri uriHostOf? uriBase? uriMatches where
  value_iff := by intro name; cases name <;> simp [uriHostOf?, GeneralName.uri?, GeneralName.type]
  base_iff := by intro base; cases base <;> simp [uriBase?, GeneralName.uri?, GeneralName.type]
  within_iff := by
    intro name base a b ha hb
    cases name <;> cases ha
    cases base <;> cases hb
    exact inSubtree_uri_iff.symm

theorem decides_directory : Decides .directoryName GeneralName.directory? GeneralName.directory?
    DistinguishedName.isWithin where
  value_iff := by intro name; cases name <;> simp [GeneralName.directory?, GeneralName.type]
  base_iff := by intro base; cases base <;> simp [GeneralName.directory?, GeneralName.type]
  within_iff := by
    intro name base a b ha hb
    cases name <;> cases ha
    cases base <;> cases hb
    exact inSubtree_directory_iff.symm

theorem decides_ip : Decides .ipAddress GeneralName.ip? GeneralName.ip? ipMatches where
  value_iff := by intro name; cases name <;> simp [GeneralName.ip?, GeneralName.type]
  base_iff := by intro base; cases base <;> simp [GeneralName.ip?, GeneralName.type]
  within_iff := by
    intro name base a b ha hb
    cases name <;> cases ha
    cases base <;> cases hb
    exact inSubtree_ip_iff.symm

/-! ## One certificate -/

/-- Names, taken apart by kind. -/
def sorted (names : List GeneralName) : ConstrainedNames :=
  { dns := names.filterMap GeneralName.dns?
    email := names.filterMap GeneralName.email?
    uriHosts := names.filterMap uriHostOf?
    directory := names.filterMap GeneralName.directory?
    ip := names.filterMap GeneralName.ip? }

theorem ofCertificate_eq (c : Certificate) :
    ConstrainedNames.ofCertificate c = sorted c.constrainedNames := by
  have hfields : ConstrainedNames.ofCertificate c =
      { dns := c.alternativeNames.filterMap GeneralName.dns?
        email := (c.subject.valuesOf emailAddressOid).map Text.lowerAscii
          ++ c.alternativeNames.filterMap GeneralName.email?
        uriHosts := (c.alternativeNames.filterMap GeneralName.uri?).map uriHost?
        directory := (if c.subject.isEmpty then [] else [c.subject])
          ++ c.alternativeNames.filterMap GeneralName.directory?
        ip := c.alternativeNames.filterMap GeneralName.ip? } := rfl
  rw [hfields, sorted, ConstrainedNames.mk.injEq]
  simp only [Certificate.filterMap_constrainedNames]
  refine ⟨?_, ?_, ?_, ?_, ?_⟩
  · simp [GeneralName.dns?]
  · simp [GeneralName.email?]
  · have hhosts : (c.alternativeNames.filterMap GeneralName.uri?).map uriHost?
        = c.alternativeNames.filterMap uriHostOf? := List.map_filterMap
    have hsubject : uriHostOf? (.directory c.subject) = none := rfl
    have haddress : ∀ address, uriHostOf? (.rfc822 address) = none := fun _ => rfl
    rw [hhosts]
    simp [hsubject, haddress]
  · simp [GeneralName.directory?]
  · simp [GeneralName.ip?]

theorem firstWithin?_eq_none {names : List GeneralName} {base : GeneralName} :
    firstWithin? (sorted names) base = none ↔ ∀ name ∈ names, ¬ InSubtree name base := by
  cases base with
  | dns base => exact decides_dns.find?_eq_none rfl
  | rfc822 base => exact decides_rfc822.find?_eq_none rfl
  | uri base =>
      rw [← decides_uri.find?_eq_none rfl]
      show Option.join ((names.filterMap uriHostOf?).find? _) = none ↔ _
      generalize hfound : (names.filterMap uriHostOf?).find? _ = found
      rcases found with _ | host | host
      · exact iff_of_true rfl rfl
      · -- a URI without a host is not found
        exact absurd (List.find?_some hfound) Bool.false_ne_true
      · exact iff_of_false nofun nofun
  | directory base => exact Option.map_eq_none_iff.trans (decides_directory.find?_eq_none rfl)
  | ip base => exact Option.map_eq_none_iff.trans (decides_ip.find?_eq_none rfl)
  | otherName => exact iff_of_true rfl fun _ _ => nofun
  | x400Address => exact iff_of_true rfl fun _ _ => nofun
  | ediPartyName => exact iff_of_true rfl fun _ _ => nofun
  | registeredId _ => exact iff_of_true rfl fun _ _ => nofun

theorem exclusion?_eq_none {excluded names : List GeneralName} :
    exclusion? excluded (sorted names) = none ↔ Clear excluded names := by
  rw [exclusion?, Option.map_eq_none_iff, List.findSome?_eq_none_iff]
  simp only [firstWithin?_eq_none]
  exact ⟨fun h name hname base hbase => h base hbase name hname,
    fun h base hbase name hname => h name hname base hbase⟩

theorem outsider?_eq_none {permitted names : List GeneralName} :
    outsider? permitted (sorted names) = none
      ↔ ∀ kind ∈ constrainedKinds, Covers permitted names kind := by
  have huri : (permitted.filterMap GeneralName.uri?).map Text.lowerAscii
      = permitted.filterMap uriBase? := by
    rw [List.map_filterMap]
    rfl
  unfold outsider?
  rw [huri]
  simp only [Option.orElse_eq_orElse, Option.orElse_eq_or, Option.or_eq_none_iff,
    Option.map_eq_none_iff, constrainedKinds, List.forall_mem_cons, List.not_mem_nil,
    false_implies, implies_true, and_true]
  exact and_congr decides_dns.firstOutside?_eq_none (and_congr decides_rfc822.firstOutside?_eq_none
    (and_congr decides_uri.firstOutside?_eq_none (and_congr
      decides_directory.firstOutside?_eq_none decides_ip.firstOutside?_eq_none)))

end NameConstraint

theorem NameConstraints.violation?_eq_none {constraints : NameConstraints} {c : Certificate} :
    constraints.violation? c = none ↔ constraints.Kept c.constrainedNames := by
  unfold NameConstraints.violation?
  dsimp only
  rw [ofCertificate_eq, Option.orElse_eq_orElse, Option.orElse_eq_or, Option.or_eq_none_iff,
    exclusion?_eq_none, outsider?_eq_none]
  exact ⟨fun ⟨hclear, hcovers⟩ => ⟨hclear, hcovers⟩, fun h => ⟨h.excluded, h.permitted⟩⟩

/-! ## A path -/

/-- What authorities exclude and permit together: a name must avoid every
base that one of them excludes, and be covered by what each of them
permits. -/
structure AccumulatedConstraints where
  excluded : List GeneralName
  permitted : List (List GeneralName)

namespace AccumulatedConstraints

/-- Nothing is excluded, and nothing limits what is permitted. -/
def start : AccumulatedConstraints := ⟨[], []⟩

def add (acc : AccumulatedConstraints) (constraints : NameConstraints) : AccumulatedConstraints :=
  { excluded := acc.excluded ++ constraints.excluded.getD []
    permitted := acc.permitted ++ [constraints.permitted.getD []] }

/-- The constraints below an authority. -/
def below (acc : AccumulatedConstraints) (ca : Certificate) : AccumulatedConstraints :=
  match ca.nameConstraints with
  | .ok (some constraints) => acc.add constraints
  | _ => acc

/-- Names keep everything that has been collected. -/
structure Kept (acc : AccumulatedConstraints) (names : List GeneralName) : Prop where
  excluded : Clear acc.excluded names
  permitted : ∀ bases ∈ acc.permitted, ∀ kind ∈ constrainedKinds, Covers bases names kind

theorem kept_start (names : List GeneralName) : start.Kept names :=
  ⟨fun _ _ _ hin => absurd hin List.not_mem_nil, fun _ hin => absurd hin List.not_mem_nil⟩

theorem kept_add {acc : AccumulatedConstraints} {constraints : NameConstraints}
    {names : List GeneralName} :
    (acc.add constraints).Kept names ↔ acc.Kept names ∧ constraints.Kept names := by
  constructor
  · rintro ⟨hexcluded, hpermitted⟩
    refine ⟨⟨fun name hname base hbase => ?_, fun bases hbases => ?_⟩,
      ⟨fun name hname base hbase => ?_, ?_⟩⟩
    · exact hexcluded name hname base (List.mem_append_left _ hbase)
    · exact hpermitted bases (List.mem_append_left _ hbases)
    · exact hexcluded name hname base (List.mem_append_right _ hbase)
    · exact hpermitted _ (List.mem_append_right _ (List.mem_singleton_self _))
  · rintro ⟨hacc, hconstraints⟩
    refine ⟨fun name hname base hbase => ?_, fun bases hbases => ?_⟩
    · rcases List.mem_append.mp hbase with hbase | hbase
      · exact hacc.excluded name hname base hbase
      · exact hconstraints.excluded name hname base hbase
    · rcases List.mem_append.mp hbases with hbases | hbases
      · exact hacc.permitted bases hbases
      · exact List.mem_singleton.mp hbases ▸ hconstraints.permitted

theorem kept_below {acc : AccumulatedConstraints} {ca : Certificate} {names : List GeneralName} :
    (acc.below ca).Kept names ↔ acc.Kept names
      ∧ ∀ constraints, ca.nameConstraints = .ok (some constraints) → constraints.Kept names := by
  unfold below
  split
  · next constraints hread =>
    rw [kept_add, hread]
    simp
  · next hnone =>
    refine (and_iff_left fun constraints hread => ?_).symm
    exact absurd hread (hnone constraints)

end AccumulatedConstraints

open AccumulatedConstraints (kept_start kept_below)

/-- The constraints of authorities, from the top. -/
def accumulated (upper : List Certificate) : AccumulatedConstraints :=
  upper.foldl AccumulatedConstraints.below .start

/-- Names keep what has been collected if they keep the constraints of
each authority. -/
theorem kept_accumulated {upper : List Certificate} {names : List GeneralName} :
    (accumulated upper).Kept names ↔ ∀ ca ∈ upper, ∀ constraints,
      ca.nameConstraints = .ok (some constraints) → constraints.Kept names := by
  have hfold : ∀ (upper : List Certificate) (acc : AccumulatedConstraints),
      (upper.foldl AccumulatedConstraints.below acc).Kept names ↔ acc.Kept names
        ∧ ∀ ca ∈ upper, ∀ constraints,
          ca.nameConstraints = .ok (some constraints) → constraints.Kept names := by
    intro upper
    induction upper with
    | nil => simp
    | cons ca rest ih =>
        intro acc
        rw [List.foldl_cons, ih, kept_below, List.forall_mem_cons, and_assoc]
  rw [accumulated, hfold, and_iff_right (kept_start names)]

namespace Candidate

/-- The loops, told by positions: the constraints of the authorities can
be read, and no certificate that is the target or not self-issued violates
those of an authority above it. -/
theorem checkAllNames_eq_ok_iff {above : List Certificate} {target : Certificate} :
    checkAllNames (above ++ [target]) = .ok () ↔
      (∀ ca ∈ above, ∃ constraints, ca.nameConstraints = .ok constraints)
        ∧ ∀ upper c lower, above ++ [target] = upper ++ c :: lower →
            (lower = [] ∨ c.isSelfIssued = false) → ∀ ca ∈ upper, ∀ constraints,
              ca.nameConstraints = .ok (some constraints) → constraints.violation? c = none := by
  rw [checkAllNames_eq_ok]
  constructor
  · intro h
    refine ⟨fun ca hca => ?_, fun upper c lower hpath hbound ca hca constraints hread => ?_⟩
    · obtain ⟨upper, between, rfl⟩ := List.append_of_mem hca
      obtain ⟨constraints, hread, -⟩ := h ca between (List.suffix_append _ _)
      exact ⟨constraints, hread⟩
    · obtain ⟨first, last, rfl⟩ := List.append_of_mem hca
      have hnames : ∀ between, above = first ++ ca :: between →
          NamesKept constraints between target := by
        rintro between rfl
        obtain ⟨read, hread', hall⟩ := h ca between (List.suffix_append _ _)
        exact hall constraints (Except.ok.inj (hread'.symm.trans hread))
      rcases List.eq_nil_or_concat lower with rfl | ⟨between, lowest, rfl⟩
      · -- the target
        obtain ⟨habove, hsame⟩ := List.append_inj' hpath rfl
        obtain rfl := List.head_eq_of_cons_eq hsame
        exact (hnames last habove).1
      · have hpath' : above ++ [target] = (first ++ ca :: (last ++ c :: between)) ++ [lowest] := by
          rw [hpath]
          simp
        obtain ⟨habove, -⟩ := List.append_inj' hpath' rfl
        have hissued := hbound.resolve_left (by simp)
        exact (hnames _ habove).2 c (List.mem_append_right _ List.mem_cons_self) hissued
  · rintro ⟨hread, hclear⟩ ca between ⟨upper, rfl⟩
    obtain ⟨constraints, hconstraints⟩ := hread ca (List.mem_append_right _ List.mem_cons_self)
    refine ⟨constraints, hconstraints, ?_⟩
    rintro nc rfl
    have hnames : ∀ middle c lower, between ++ [target] = middle ++ c :: lower →
        (lower = [] ∨ c.isSelfIssued = false) → nc.violation? c = none := by
      intro middle c lower hbetween hbound
      refine hclear (upper ++ ca :: middle) c lower ?_ hbound ca
        (List.mem_append_right _ List.mem_cons_self) nc hconstraints
      simp [hbetween]
    refine ⟨hnames between target [] rfl (Or.inl rfl), fun c hc hissued => ?_⟩
    obtain ⟨middle, lower, rfl⟩ := List.append_of_mem hc
    exact hnames middle c (lower ++ [target]) (by simp) (Or.inr hissued)

/-- Constraints are enforced exactly. A certificate has no violation if
none of its names lies in an excluded subtree and, for each of the five
kinds of which something is permitted, every name lies in a permitted
subtree. Along a path, provided that the constraints of the authorities
can be read, nothing is rejected if every certificate that is the target
or not self-issued keeps what the authorities above it impose. -/
theorem names_exact :
    (∀ (constraints : NameConstraints) (c : Certificate),
      constraints.violation? c = none ↔ constraints.Kept c.constrainedNames)
    ∧ ∀ (above : List Certificate) (target : Certificate),
      checkAllNames (above ++ [target]) = .ok () ↔
        (∀ ca ∈ above, ∃ constraints, ca.nameConstraints = .ok constraints)
          ∧ ∀ upper c lower, above ++ [target] = upper ++ c :: lower →
              (lower = [] ∨ c.isSelfIssued = false) →
                (accumulated upper).Kept c.constrainedNames := by
  refine ⟨fun _ _ => NameConstraints.violation?_eq_none, fun above target => ?_⟩
  simp only [kept_accumulated, ← NameConstraints.violation?_eq_none]
  exact checkAllNames_eq_ok_iff

end Candidate

end TrustPath
